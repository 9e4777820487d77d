import Scopelight.Unicode.Ranges

/-!
# Properties of letters and case

Yes-or-no properties that concern letters and their case, as packed range tables.
-/

namespace Scopelight

namespace Unicode

namespace Letters

def alphabetic : PackedRanges :=
  [0x00004100005A00006100007A0000AA0000AA0000B50000B50000BA0000BA0000C00000D6,
   0x0000D80000F60000F80002C10002C60002D10002E00002E40002EC0002EC0002EE0002EE,
   0x00034500034500036300037400037600037700037A00037D00037F00037F000386000386,
   0x00038800038A00038C00038C00038E0003A10003A30003F50003F700048100048A00052F,
   0x0005310005560005590005590005600005880005B00005BD0005BF0005BF0005C10005C2,
   0x0005C40005C50005C70005C70005D00005EA0005EF0005F200061000061A000620000657,
   0x00065900065F00066E0006D30006D50006DC0006E10006E80006ED0006EF0006FA0006FC,
   0x0006FF0006FF00071000073F00074D0007B10007CA0007EA0007F40007F50007FA0007FA,
   0x00080000081700081A00082C00084000085800086000086A00087000088700088900088E,
   0x0008970008970008A00008C90008D40008DF0008E30008E90008F000093B00093D00094C,
   0x00094E00095000095500096300097100098300098500098C00098F0009900009930009A8,
   0x0009AA0009B00009B20009B20009B60009B90009BD0009C40009C70009C80009CB0009CC,
   0x0009CE0009CE0009D70009D70009DC0009DD0009DF0009E30009F00009F10009FC0009FC,
   0x000A01000A03000A05000A0A000A0F000A10000A13000A28000A2A000A30000A32000A33,
   0x000A35000A36000A38000A39000A3E000A42000A47000A48000A4B000A4C000A51000A51,
   0x000A59000A5C000A5E000A5E000A70000A75000A81000A83000A85000A8D000A8F000A91,
   0x000A93000AA8000AAA000AB0000AB2000AB3000AB5000AB9000ABD000AC5000AC7000AC9,
   0x000ACB000ACC000AD0000AD0000AE0000AE3000AF9000AFC000B01000B03000B05000B0C,
   0x000B0F000B10000B13000B28000B2A000B30000B32000B33000B35000B39000B3D000B44,
   0x000B47000B48000B4B000B4C000B56000B57000B5C000B5D000B5F000B63000B71000B71,
   0x000B82000B83000B85000B8A000B8E000B90000B92000B95000B99000B9A000B9C000B9C,
   0x000B9E000B9F000BA3000BA4000BA8000BAA000BAE000BB9000BBE000BC2000BC6000BC8,
   0x000BCA000BCC000BD0000BD0000BD7000BD7000C00000C0C000C0E000C10000C12000C28,
   0x000C2A000C39000C3D000C44000C46000C48000C4A000C4C000C55000C56000C58000C5A,
   0x000C5D000C5D000C60000C63000C80000C83000C85000C8C000C8E000C90000C92000CA8,
   0x000CAA000CB3000CB5000CB9000CBD000CC4000CC6000CC8000CCA000CCC000CD5000CD6,
   0x000CDD000CDE000CE0000CE3000CF1000CF3000D00000D0C000D0E000D10000D12000D3A,
   0x000D3D000D44000D46000D48000D4A000D4C000D4E000D4E000D54000D57000D5F000D63,
   0x000D7A000D7F000D81000D83000D85000D96000D9A000DB1000DB3000DBB000DBD000DBD,
   0x000DC0000DC6000DCF000DD4000DD6000DD6000DD8000DDF000DF2000DF3000E01000E3A,
   0x000E40000E46000E4D000E4D000E81000E82000E84000E84000E86000E8A000E8C000EA3,
   0x000EA5000EA5000EA7000EB9000EBB000EBD000EC0000EC4000EC6000EC6000ECD000ECD,
   0x000EDC000EDF000F00000F00000F40000F47000F49000F6C000F71000F83000F88000F97,
   0x000F99000FBC00100000103600103800103800103B00103F00105000108F00109A00109D,
   0x0010A00010C50010C70010C70010CD0010CD0010D00010FA0010FC00124800124A00124D,
   0x00125000125600125800125800125A00125D00126000128800128A00128D0012900012B0,
   0x0012B20012B50012B80012BE0012C00012C00012C20012C50012C80012D60012D8001310,
   0x00131200131500131800135A00138000138F0013A00013F50013F80013FD00140100166C,
   0x00166F00167F00168100169A0016A00016EA0016EE0016F800170000171300171F001733,
   0x00174000175300176000176C00176E0017700017720017730017800017B30017B60017C8,
   0x0017D70017D70017DC0017DC0018200018780018800018AA0018B00018F500190000191E,
   0x00192000192B00193000193800195000196D0019700019740019800019AB0019B00019C9,
   0x001A00001A1B001A20001A5E001A61001A74001AA7001AA7001ABF001AC0001ACC001ACE,
   0x001B00001B33001B35001B43001B45001B4C001B80001BA9001BAC001BAF001BBA001BE5,
   0x001BE7001BF1001C00001C36001C4D001C4F001C5A001C7D001C80001C8A001C90001CBA,
   0x001CBD001CBF001CE9001CEC001CEE001CF3001CF5001CF6001CFA001CFA001D00001DBF,
   0x001DD3001DF4001E00001F15001F18001F1D001F20001F45001F48001F4D001F50001F57,
   0x001F59001F59001F5B001F5B001F5D001F5D001F5F001F7D001F80001FB4001FB6001FBC,
   0x001FBE001FBE001FC2001FC4001FC6001FCC001FD0001FD3001FD6001FDB001FE0001FEC,
   0x001FF2001FF4001FF6001FFC00207100207100207F00207F00209000209C002102002102,
   0x00210700210700210A00211300211500211500211900211D002124002124002126002126,
   0x00212800212800212A00212D00212F00213900213C00213F00214500214900214E00214E,
   0x0021600021880024B60024E9002C00002CE4002CEB002CEE002CF2002CF3002D00002D25,
   0x002D27002D27002D2D002D2D002D30002D67002D6F002D6F002D80002D96002DA0002DA6,
   0x002DA8002DAE002DB0002DB6002DB8002DBE002DC0002DC6002DC8002DCE002DD0002DD6,
   0x002DD8002DDE002DE0002DFF002E2F002E2F003005003007003021003029003031003035,
   0x00303800303C00304100309600309D00309F0030A10030FA0030FC0030FF00310500312F,
   0x00313100318E0031A00031BF0031F00031FF003400004DBF004E0000A48C00A4D000A4FD,
   0x00A50000A60C00A61000A61F00A62A00A62B00A64000A66E00A67400A67B00A67F00A6EF,
   0x00A71700A71F00A72200A78800A78B00A7CD00A7D000A7D100A7D300A7D300A7D500A7DC,
   0x00A7F200A80500A80700A82700A84000A87300A88000A8C300A8C500A8C500A8F200A8F7,
   0x00A8FB00A8FB00A8FD00A8FF00A90A00A92A00A93000A95200A96000A97C00A98000A9B2,
   0x00A9B400A9BF00A9CF00A9CF00A9E000A9EF00A9FA00A9FE00AA0000AA3600AA4000AA4D,
   0x00AA6000AA7600AA7A00AABE00AAC000AAC000AAC200AAC200AADB00AADD00AAE000AAEF,
   0x00AAF200AAF500AB0100AB0600AB0900AB0E00AB1100AB1600AB2000AB2600AB2800AB2E,
   0x00AB3000AB5A00AB5C00AB6900AB7000ABEA00AC0000D7A300D7B000D7C600D7CB00D7FB,
   0x00F90000FA6D00FA7000FAD900FB0000FB0600FB1300FB1700FB1D00FB2800FB2A00FB36,
   0x00FB3800FB3C00FB3E00FB3E00FB4000FB4100FB4300FB4400FB4600FBB100FBD300FD3D,
   0x00FD5000FD8F00FD9200FDC700FDF000FDFB00FE7000FE7400FE7600FEFC00FF2100FF3A,
   0x00FF4100FF5A00FF6600FFBE00FFC200FFC700FFCA00FFCF00FFD200FFD700FFDA00FFDC,
   0x01000001000B01000D01002601002801003A01003C01003D01003F01004D01005001005D,
   0x0100800100FA01014001017401028001029C0102A00102D001030001031F01032D01034A,
   0x01035001037A01038001039D0103A00103C30103C80103CF0103D10103D501040001049D,
   0x0104B00104D30104D80104FB01050001052701053001056301057001057A01057C01058A,
   0x01058C0105920105940105950105970105A10105A30105B10105B30105B90105BB0105BC,
   0x0105C00105F30106000107360107400107550107600107670107800107850107870107B0,
   0x0107B20107BA01080001080501080801080801080A01083501083701083801083C01083C,
   0x01083F01085501086001087601088001089E0108E00108F20108F40108F5010900010915,
   0x0109200109390109800109B70109BE0109BF010A00010A03010A05010A06010A0C010A13,
   0x010A15010A17010A19010A35010A60010A7C010A80010A9C010AC0010AC7010AC9010AE4,
   0x010B00010B35010B40010B55010B60010B72010B80010B91010C00010C48010C80010CB2,
   0x010CC0010CF2010D00010D27010D4A010D65010D69010D69010D6F010D85010E80010EA9,
   0x010EAB010EAC010EB0010EB1010EC2010EC4010EFC010EFC010F00010F1C010F27010F27,
   0x010F30010F45010F70010F81010FB0010FC4010FE0010FF6011000011045011071011075,
   0x0110800110B80110C20110C20110D00110E8011100011132011144011147011150011172,
   0x0111760111760111800111BF0111C10111C40111CE0111CF0111DA0111DA0111DC0111DC,
   0x01120001121101121301123401123701123701123E011241011280011286011288011288,
   0x01128A01128D01128F01129D01129F0112A80112B00112E801130001130301130501130C,
   0x01130F01131001131301132801132A01133001133201133301133501133901133D011344,
   0x01134701134801134B01134C01135001135001135701135701135D011363011380011389,
   0x01138B01138B01138E01138E0113900113B50113B70113C00113C20113C20113C50113C5,
   0x0113C70113CA0113CC0113CD0113D10113D10113D30113D3011400011441011443011445,
   0x01144701144A01145F0114610114800114C10114C40114C50114C70114C70115800115B5,
   0x0115B80115BE0115D80115DD01160001163E0116400116400116440116440116800116B5,
   0x0116B80116B801170001171A01171D01172A0117400117460118000118380118A00118DF,
   0x0118FF01190601190901190901190C011913011915011916011918011935011937011938,
   0x01193B01193C01193F0119420119A00119A70119AA0119D70119DA0119DF0119E10119E1,
   0x0119E30119E4011A00011A32011A35011A3E011A50011A97011A9D011A9D011AB0011AF8,
   0x011BC0011BE0011C00011C08011C0A011C36011C38011C3E011C40011C40011C72011C8F,
   0x011C92011CA7011CA9011CB6011D00011D06011D08011D09011D0B011D36011D3A011D3A,
   0x011D3C011D3D011D3F011D41011D43011D43011D46011D47011D60011D65011D67011D68,
   0x011D6A011D8E011D90011D91011D93011D96011D98011D98011EE0011EF6011F00011F10,
   0x011F12011F3A011F3E011F40011FB0011FB001200001239901240001246E012480012543,
   0x012F90012FF001300001342F0134410134460134600143FA01440001464601610001612E,
   0x016800016A38016A40016A5E016A70016ABE016AD0016AED016B00016B2F016B40016B43,
   0x016B63016B77016B7D016B8F016D40016D6C016E40016E7F016F00016F4A016F4F016F87,
   0x016F8F016F9F016FE0016FE1016FE3016FE3016FF0016FF10170000187F7018800018CD5,
   0x018CFF018D0801AFF001AFF301AFF501AFFB01AFFD01AFFE01B00001B12201B13201B132,
   0x01B15001B15201B15501B15501B16401B16701B17001B2FB01BC0001BC6A01BC7001BC7C,
   0x01BC8001BC8801BC9001BC9901BC9E01BC9E01D40001D45401D45601D49C01D49E01D49F,
   0x01D4A201D4A201D4A501D4A601D4A901D4AC01D4AE01D4B901D4BB01D4BB01D4BD01D4C3,
   0x01D4C501D50501D50701D50A01D50D01D51401D51601D51C01D51E01D53901D53B01D53E,
   0x01D54001D54401D54601D54601D54A01D55001D55201D6A501D6A801D6C001D6C201D6DA,
   0x01D6DC01D6FA01D6FC01D71401D71601D73401D73601D74E01D75001D76E01D77001D788,
   0x01D78A01D7A801D7AA01D7C201D7C401D7CB01DF0001DF1E01DF2501DF2A01E00001E006,
   0x01E00801E01801E01B01E02101E02301E02401E02601E02A01E03001E06D01E08F01E08F,
   0x01E10001E12C01E13701E13D01E14E01E14E01E29001E2AD01E2C001E2EB01E4D001E4EB,
   0x01E5D001E5ED01E5F001E5F001E7E001E7E601E7E801E7EB01E7ED01E7EE01E7F001E7FE,
   0x01E80001E8C401E90001E94301E94701E94701E94B01E94B01EE0001EE0301EE0501EE1F,
   0x01EE2101EE2201EE2401EE2401EE2701EE2701EE2901EE3201EE3401EE3701EE3901EE39,
   0x01EE3B01EE3B01EE4201EE4201EE4701EE4701EE4901EE4901EE4B01EE4B01EE4D01EE4F,
   0x01EE5101EE5201EE5401EE5401EE5701EE5701EE5901EE5901EE5B01EE5B01EE5D01EE5D,
   0x01EE5F01EE5F01EE6101EE6201EE6401EE6401EE6701EE6A01EE6C01EE7201EE7401EE77,
   0x01EE7901EE7C01EE7E01EE7E01EE8001EE8901EE8B01EE9B01EEA101EEA301EEA501EEA9,
   0x01EEAB01EEBB01F13001F14901F15001F16901F17001F18902000002A6DF02A70002B739,
   0x02B74002B81D02B82002CEA102CEB002EBE002EBF002EE5D02F80002FA1D03000003134A,
   0x0313500323AF]

def lowercase : PackedRanges :=
  [0x00006100007A0000AA0000AA0000B50000B50000BA0000BA0000DF0000F60000F80000FF,
   0x00010100010100010300010300010500010500010700010700010900010900010B00010B,
   0x00010D00010D00010F00010F000111000111000113000113000115000115000117000117,
   0x00011900011900011B00011B00011D00011D00011F00011F000121000121000123000123,
   0x00012500012500012700012700012900012900012B00012B00012D00012D00012F00012F,
   0x00013100013100013300013300013500013500013700013800013A00013A00013C00013C,
   0x00013E00013E000140000140000142000142000144000144000146000146000148000149,
   0x00014B00014B00014D00014D00014F00014F000151000151000153000153000155000155,
   0x00015700015700015900015900015B00015B00015D00015D00015F00015F000161000161,
   0x00016300016300016500016500016700016700016900016900016B00016B00016D00016D,
   0x00016F00016F00017100017100017300017300017500017500017700017700017A00017A,
   0x00017C00017C00017E00018000018300018300018500018500018800018800018C00018D,
   0x00019200019200019500019500019900019B00019E00019E0001A10001A10001A30001A3,
   0x0001A50001A50001A80001A80001AA0001AB0001AD0001AD0001B00001B00001B40001B4,
   0x0001B60001B60001B90001BA0001BD0001BF0001C60001C60001C90001C90001CC0001CC,
   0x0001CE0001CE0001D00001D00001D20001D20001D40001D40001D60001D60001D80001D8,
   0x0001DA0001DA0001DC0001DD0001DF0001DF0001E10001E10001E30001E30001E50001E5,
   0x0001E70001E70001E90001E90001EB0001EB0001ED0001ED0001EF0001F00001F30001F3,
   0x0001F50001F50001F90001F90001FB0001FB0001FD0001FD0001FF0001FF000201000201,
   0x00020300020300020500020500020700020700020900020900020B00020B00020D00020D,
   0x00020F00020F000211000211000213000213000215000215000217000217000219000219,
   0x00021B00021B00021D00021D00021F00021F000221000221000223000223000225000225,
   0x00022700022700022900022900022B00022B00022D00022D00022F00022F000231000231,
   0x00023300023900023C00023C00023F000240000242000242000247000247000249000249,
   0x00024B00024B00024D00024D00024F0002930002950002B80002C00002C10002E00002E4,
   0x00034500034500037100037100037300037300037700037700037A00037D000390000390,
   0x0003AC0003CE0003D00003D10003D50003D70003D90003D90003DB0003DB0003DD0003DD,
   0x0003DF0003DF0003E10003E10003E30003E30003E50003E50003E70003E70003E90003E9,
   0x0003EB0003EB0003ED0003ED0003EF0003F30003F50003F50003F80003F80003FB0003FC,
   0x00043000045F000461000461000463000463000465000465000467000467000469000469,
   0x00046B00046B00046D00046D00046F00046F000471000471000473000473000475000475,
   0x00047700047700047900047900047B00047B00047D00047D00047F00047F000481000481,
   0x00048B00048B00048D00048D00048F00048F000491000491000493000493000495000495,
   0x00049700049700049900049900049B00049B00049D00049D00049F00049F0004A10004A1,
   0x0004A30004A30004A50004A50004A70004A70004A90004A90004AB0004AB0004AD0004AD,
   0x0004AF0004AF0004B10004B10004B30004B30004B50004B50004B70004B70004B90004B9,
   0x0004BB0004BB0004BD0004BD0004BF0004BF0004C20004C20004C40004C40004C60004C6,
   0x0004C80004C80004CA0004CA0004CC0004CC0004CE0004CF0004D10004D10004D30004D3,
   0x0004D50004D50004D70004D70004D90004D90004DB0004DB0004DD0004DD0004DF0004DF,
   0x0004E10004E10004E30004E30004E50004E50004E70004E70004E90004E90004EB0004EB,
   0x0004ED0004ED0004EF0004EF0004F10004F10004F30004F30004F50004F50004F70004F7,
   0x0004F90004F90004FB0004FB0004FD0004FD0004FF0004FF000501000501000503000503,
   0x00050500050500050700050700050900050900050B00050B00050D00050D00050F00050F,
   0x00051100051100051300051300051500051500051700051700051900051900051B00051B,
   0x00051D00051D00051F00051F000521000521000523000523000525000525000527000527,
   0x00052900052900052B00052B00052D00052D00052F00052F0005600005880010D00010FA,
   0x0010FC0010FF0013F80013FD001C80001C88001C8A001C8A001D00001DBF001E01001E01,
   0x001E03001E03001E05001E05001E07001E07001E09001E09001E0B001E0B001E0D001E0D,
   0x001E0F001E0F001E11001E11001E13001E13001E15001E15001E17001E17001E19001E19,
   0x001E1B001E1B001E1D001E1D001E1F001E1F001E21001E21001E23001E23001E25001E25,
   0x001E27001E27001E29001E29001E2B001E2B001E2D001E2D001E2F001E2F001E31001E31,
   0x001E33001E33001E35001E35001E37001E37001E39001E39001E3B001E3B001E3D001E3D,
   0x001E3F001E3F001E41001E41001E43001E43001E45001E45001E47001E47001E49001E49,
   0x001E4B001E4B001E4D001E4D001E4F001E4F001E51001E51001E53001E53001E55001E55,
   0x001E57001E57001E59001E59001E5B001E5B001E5D001E5D001E5F001E5F001E61001E61,
   0x001E63001E63001E65001E65001E67001E67001E69001E69001E6B001E6B001E6D001E6D,
   0x001E6F001E6F001E71001E71001E73001E73001E75001E75001E77001E77001E79001E79,
   0x001E7B001E7B001E7D001E7D001E7F001E7F001E81001E81001E83001E83001E85001E85,
   0x001E87001E87001E89001E89001E8B001E8B001E8D001E8D001E8F001E8F001E91001E91,
   0x001E93001E93001E95001E9D001E9F001E9F001EA1001EA1001EA3001EA3001EA5001EA5,
   0x001EA7001EA7001EA9001EA9001EAB001EAB001EAD001EAD001EAF001EAF001EB1001EB1,
   0x001EB3001EB3001EB5001EB5001EB7001EB7001EB9001EB9001EBB001EBB001EBD001EBD,
   0x001EBF001EBF001EC1001EC1001EC3001EC3001EC5001EC5001EC7001EC7001EC9001EC9,
   0x001ECB001ECB001ECD001ECD001ECF001ECF001ED1001ED1001ED3001ED3001ED5001ED5,
   0x001ED7001ED7001ED9001ED9001EDB001EDB001EDD001EDD001EDF001EDF001EE1001EE1,
   0x001EE3001EE3001EE5001EE5001EE7001EE7001EE9001EE9001EEB001EEB001EED001EED,
   0x001EEF001EEF001EF1001EF1001EF3001EF3001EF5001EF5001EF7001EF7001EF9001EF9,
   0x001EFB001EFB001EFD001EFD001EFF001F07001F10001F15001F20001F27001F30001F37,
   0x001F40001F45001F50001F57001F60001F67001F70001F7D001F80001F87001F90001F97,
   0x001FA0001FA7001FB0001FB4001FB6001FB7001FBE001FBE001FC2001FC4001FC6001FC7,
   0x001FD0001FD3001FD6001FD7001FE0001FE7001FF2001FF4001FF6001FF7002071002071,
   0x00207F00207F00209000209C00210A00210A00210E00210F00211300211300212F00212F,
   0x00213400213400213900213900213C00213D00214600214900214E00214E00217000217F,
   0x0021840021840024D00024E9002C30002C5F002C61002C61002C65002C66002C68002C68,
   0x002C6A002C6A002C6C002C6C002C71002C71002C73002C74002C76002C7D002C81002C81,
   0x002C83002C83002C85002C85002C87002C87002C89002C89002C8B002C8B002C8D002C8D,
   0x002C8F002C8F002C91002C91002C93002C93002C95002C95002C97002C97002C99002C99,
   0x002C9B002C9B002C9D002C9D002C9F002C9F002CA1002CA1002CA3002CA3002CA5002CA5,
   0x002CA7002CA7002CA9002CA9002CAB002CAB002CAD002CAD002CAF002CAF002CB1002CB1,
   0x002CB3002CB3002CB5002CB5002CB7002CB7002CB9002CB9002CBB002CBB002CBD002CBD,
   0x002CBF002CBF002CC1002CC1002CC3002CC3002CC5002CC5002CC7002CC7002CC9002CC9,
   0x002CCB002CCB002CCD002CCD002CCF002CCF002CD1002CD1002CD3002CD3002CD5002CD5,
   0x002CD7002CD7002CD9002CD9002CDB002CDB002CDD002CDD002CDF002CDF002CE1002CE1,
   0x002CE3002CE4002CEC002CEC002CEE002CEE002CF3002CF3002D00002D25002D27002D27,
   0x002D2D002D2D00A64100A64100A64300A64300A64500A64500A64700A64700A64900A649,
   0x00A64B00A64B00A64D00A64D00A64F00A64F00A65100A65100A65300A65300A65500A655,
   0x00A65700A65700A65900A65900A65B00A65B00A65D00A65D00A65F00A65F00A66100A661,
   0x00A66300A66300A66500A66500A66700A66700A66900A66900A66B00A66B00A66D00A66D,
   0x00A68100A68100A68300A68300A68500A68500A68700A68700A68900A68900A68B00A68B,
   0x00A68D00A68D00A68F00A68F00A69100A69100A69300A69300A69500A69500A69700A697,
   0x00A69900A69900A69B00A69D00A72300A72300A72500A72500A72700A72700A72900A729,
   0x00A72B00A72B00A72D00A72D00A72F00A73100A73300A73300A73500A73500A73700A737,
   0x00A73900A73900A73B00A73B00A73D00A73D00A73F00A73F00A74100A74100A74300A743,
   0x00A74500A74500A74700A74700A74900A74900A74B00A74B00A74D00A74D00A74F00A74F,
   0x00A75100A75100A75300A75300A75500A75500A75700A75700A75900A75900A75B00A75B,
   0x00A75D00A75D00A75F00A75F00A76100A76100A76300A76300A76500A76500A76700A767,
   0x00A76900A76900A76B00A76B00A76D00A76D00A76F00A77800A77A00A77A00A77C00A77C,
   0x00A77F00A77F00A78100A78100A78300A78300A78500A78500A78700A78700A78C00A78C,
   0x00A78E00A78E00A79100A79100A79300A79500A79700A79700A79900A79900A79B00A79B,
   0x00A79D00A79D00A79F00A79F00A7A100A7A100A7A300A7A300A7A500A7A500A7A700A7A7,
   0x00A7A900A7A900A7AF00A7AF00A7B500A7B500A7B700A7B700A7B900A7B900A7BB00A7BB,
   0x00A7BD00A7BD00A7BF00A7BF00A7C100A7C100A7C300A7C300A7C800A7C800A7CA00A7CA,
   0x00A7CD00A7CD00A7D100A7D100A7D300A7D300A7D500A7D500A7D700A7D700A7D900A7D9,
   0x00A7DB00A7DB00A7F200A7F400A7F600A7F600A7F800A7FA00AB3000AB5A00AB5C00AB69,
   0x00AB7000ABBF00FB0000FB0600FB1300FB1700FF4100FF5A01042801044F0104D80104FB,
   0x0105970105A10105A30105B10105B30105B90105BB0105BC010780010780010783010785,
   0x0107870107B00107B20107BA010CC0010CF2010D70010D850118C00118DF016E60016E7F,
   0x01D41A01D43301D44E01D45401D45601D46701D48201D49B01D4B601D4B901D4BB01D4BB,
   0x01D4BD01D4C301D4C501D4CF01D4EA01D50301D51E01D53701D55201D56B01D58601D59F,
   0x01D5BA01D5D301D5EE01D60701D62201D63B01D65601D66F01D68A01D6A501D6C201D6DA,
   0x01D6DC01D6E101D6FC01D71401D71601D71B01D73601D74E01D75001D75501D77001D788,
   0x01D78A01D78F01D7AA01D7C201D7C401D7C901D7CB01D7CB01DF0001DF0901DF0B01DF1E,
   0x01DF2501DF2A01E03001E06D01E92201E943]

def uppercase : PackedRanges :=
  [0x00004100005A0000C00000D60000D80000DE000100000100000102000102000104000104,
   0x00010600010600010800010800010A00010A00010C00010C00010E00010E000110000110,
   0x00011200011200011400011400011600011600011800011800011A00011A00011C00011C,
   0x00011E00011E000120000120000122000122000124000124000126000126000128000128,
   0x00012A00012A00012C00012C00012E00012E000130000130000132000132000134000134,
   0x00013600013600013900013900013B00013B00013D00013D00013F00013F000141000141,
   0x00014300014300014500014500014700014700014A00014A00014C00014C00014E00014E,
   0x00015000015000015200015200015400015400015600015600015800015800015A00015A,
   0x00015C00015C00015E00015E000160000160000162000162000164000164000166000166,
   0x00016800016800016A00016A00016C00016C00016E00016E000170000170000172000172,
   0x00017400017400017600017600017800017900017B00017B00017D00017D000181000182,
   0x00018400018400018600018700018900018B00018E000191000193000194000196000198,
   0x00019C00019D00019F0001A00001A20001A20001A40001A40001A60001A70001A90001A9,
   0x0001AC0001AC0001AE0001AF0001B10001B30001B50001B50001B70001B80001BC0001BC,
   0x0001C40001C40001C70001C70001CA0001CA0001CD0001CD0001CF0001CF0001D10001D1,
   0x0001D30001D30001D50001D50001D70001D70001D90001D90001DB0001DB0001DE0001DE,
   0x0001E00001E00001E20001E20001E40001E40001E60001E60001E80001E80001EA0001EA,
   0x0001EC0001EC0001EE0001EE0001F10001F10001F40001F40001F60001F80001FA0001FA,
   0x0001FC0001FC0001FE0001FE000200000200000202000202000204000204000206000206,
   0x00020800020800020A00020A00020C00020C00020E00020E000210000210000212000212,
   0x00021400021400021600021600021800021800021A00021A00021C00021C00021E00021E,
   0x00022000022000022200022200022400022400022600022600022800022800022A00022A,
   0x00022C00022C00022E00022E00023000023000023200023200023A00023B00023D00023E,
   0x00024100024100024300024600024800024800024A00024A00024C00024C00024E00024E,
   0x00037000037000037200037200037600037600037F00037F00038600038600038800038A,
   0x00038C00038C00038E00038F0003910003A10003A30003AB0003CF0003CF0003D20003D4,
   0x0003D80003D80003DA0003DA0003DC0003DC0003DE0003DE0003E00003E00003E20003E2,
   0x0003E40003E40003E60003E60003E80003E80003EA0003EA0003EC0003EC0003EE0003EE,
   0x0003F40003F40003F70003F70003F90003FA0003FD00042F000460000460000462000462,
   0x00046400046400046600046600046800046800046A00046A00046C00046C00046E00046E,
   0x00047000047000047200047200047400047400047600047600047800047800047A00047A,
   0x00047C00047C00047E00047E00048000048000048A00048A00048C00048C00048E00048E,
   0x00049000049000049200049200049400049400049600049600049800049800049A00049A,
   0x00049C00049C00049E00049E0004A00004A00004A20004A20004A40004A40004A60004A6,
   0x0004A80004A80004AA0004AA0004AC0004AC0004AE0004AE0004B00004B00004B20004B2,
   0x0004B40004B40004B60004B60004B80004B80004BA0004BA0004BC0004BC0004BE0004BE,
   0x0004C00004C10004C30004C30004C50004C50004C70004C70004C90004C90004CB0004CB,
   0x0004CD0004CD0004D00004D00004D20004D20004D40004D40004D60004D60004D80004D8,
   0x0004DA0004DA0004DC0004DC0004DE0004DE0004E00004E00004E20004E20004E40004E4,
   0x0004E60004E60004E80004E80004EA0004EA0004EC0004EC0004EE0004EE0004F00004F0,
   0x0004F20004F20004F40004F40004F60004F60004F80004F80004FA0004FA0004FC0004FC,
   0x0004FE0004FE000500000500000502000502000504000504000506000506000508000508,
   0x00050A00050A00050C00050C00050E00050E000510000510000512000512000514000514,
   0x00051600051600051800051800051A00051A00051C00051C00051E00051E000520000520,
   0x00052200052200052400052400052600052600052800052800052A00052A00052C00052C,
   0x00052E00052E0005310005560010A00010C50010C70010C70010CD0010CD0013A00013F5,
   0x001C89001C89001C90001CBA001CBD001CBF001E00001E00001E02001E02001E04001E04,
   0x001E06001E06001E08001E08001E0A001E0A001E0C001E0C001E0E001E0E001E10001E10,
   0x001E12001E12001E14001E14001E16001E16001E18001E18001E1A001E1A001E1C001E1C,
   0x001E1E001E1E001E20001E20001E22001E22001E24001E24001E26001E26001E28001E28,
   0x001E2A001E2A001E2C001E2C001E2E001E2E001E30001E30001E32001E32001E34001E34,
   0x001E36001E36001E38001E38001E3A001E3A001E3C001E3C001E3E001E3E001E40001E40,
   0x001E42001E42001E44001E44001E46001E46001E48001E48001E4A001E4A001E4C001E4C,
   0x001E4E001E4E001E50001E50001E52001E52001E54001E54001E56001E56001E58001E58,
   0x001E5A001E5A001E5C001E5C001E5E001E5E001E60001E60001E62001E62001E64001E64,
   0x001E66001E66001E68001E68001E6A001E6A001E6C001E6C001E6E001E6E001E70001E70,
   0x001E72001E72001E74001E74001E76001E76001E78001E78001E7A001E7A001E7C001E7C,
   0x001E7E001E7E001E80001E80001E82001E82001E84001E84001E86001E86001E88001E88,
   0x001E8A001E8A001E8C001E8C001E8E001E8E001E90001E90001E92001E92001E94001E94,
   0x001E9E001E9E001EA0001EA0001EA2001EA2001EA4001EA4001EA6001EA6001EA8001EA8,
   0x001EAA001EAA001EAC001EAC001EAE001EAE001EB0001EB0001EB2001EB2001EB4001EB4,
   0x001EB6001EB6001EB8001EB8001EBA001EBA001EBC001EBC001EBE001EBE001EC0001EC0,
   0x001EC2001EC2001EC4001EC4001EC6001EC6001EC8001EC8001ECA001ECA001ECC001ECC,
   0x001ECE001ECE001ED0001ED0001ED2001ED2001ED4001ED4001ED6001ED6001ED8001ED8,
   0x001EDA001EDA001EDC001EDC001EDE001EDE001EE0001EE0001EE2001EE2001EE4001EE4,
   0x001EE6001EE6001EE8001EE8001EEA001EEA001EEC001EEC001EEE001EEE001EF0001EF0,
   0x001EF2001EF2001EF4001EF4001EF6001EF6001EF8001EF8001EFA001EFA001EFC001EFC,
   0x001EFE001EFE001F08001F0F001F18001F1D001F28001F2F001F38001F3F001F48001F4D,
   0x001F59001F59001F5B001F5B001F5D001F5D001F5F001F5F001F68001F6F001FB8001FBB,
   0x001FC8001FCB001FD8001FDB001FE8001FEC001FF8001FFB002102002102002107002107,
   0x00210B00210D00211000211200211500211500211900211D002124002124002126002126,
   0x00212800212800212A00212D00213000213300213E00213F00214500214500216000216F,
   0x0021830021830024B60024CF002C00002C2F002C60002C60002C62002C64002C67002C67,
   0x002C69002C69002C6B002C6B002C6D002C70002C72002C72002C75002C75002C7E002C80,
   0x002C82002C82002C84002C84002C86002C86002C88002C88002C8A002C8A002C8C002C8C,
   0x002C8E002C8E002C90002C90002C92002C92002C94002C94002C96002C96002C98002C98,
   0x002C9A002C9A002C9C002C9C002C9E002C9E002CA0002CA0002CA2002CA2002CA4002CA4,
   0x002CA6002CA6002CA8002CA8002CAA002CAA002CAC002CAC002CAE002CAE002CB0002CB0,
   0x002CB2002CB2002CB4002CB4002CB6002CB6002CB8002CB8002CBA002CBA002CBC002CBC,
   0x002CBE002CBE002CC0002CC0002CC2002CC2002CC4002CC4002CC6002CC6002CC8002CC8,
   0x002CCA002CCA002CCC002CCC002CCE002CCE002CD0002CD0002CD2002CD2002CD4002CD4,
   0x002CD6002CD6002CD8002CD8002CDA002CDA002CDC002CDC002CDE002CDE002CE0002CE0,
   0x002CE2002CE2002CEB002CEB002CED002CED002CF2002CF200A64000A64000A64200A642,
   0x00A64400A64400A64600A64600A64800A64800A64A00A64A00A64C00A64C00A64E00A64E,
   0x00A65000A65000A65200A65200A65400A65400A65600A65600A65800A65800A65A00A65A,
   0x00A65C00A65C00A65E00A65E00A66000A66000A66200A66200A66400A66400A66600A666,
   0x00A66800A66800A66A00A66A00A66C00A66C00A68000A68000A68200A68200A68400A684,
   0x00A68600A68600A68800A68800A68A00A68A00A68C00A68C00A68E00A68E00A69000A690,
   0x00A69200A69200A69400A69400A69600A69600A69800A69800A69A00A69A00A72200A722,
   0x00A72400A72400A72600A72600A72800A72800A72A00A72A00A72C00A72C00A72E00A72E,
   0x00A73200A73200A73400A73400A73600A73600A73800A73800A73A00A73A00A73C00A73C,
   0x00A73E00A73E00A74000A74000A74200A74200A74400A74400A74600A74600A74800A748,
   0x00A74A00A74A00A74C00A74C00A74E00A74E00A75000A75000A75200A75200A75400A754,
   0x00A75600A75600A75800A75800A75A00A75A00A75C00A75C00A75E00A75E00A76000A760,
   0x00A76200A76200A76400A76400A76600A76600A76800A76800A76A00A76A00A76C00A76C,
   0x00A76E00A76E00A77900A77900A77B00A77B00A77D00A77E00A78000A78000A78200A782,
   0x00A78400A78400A78600A78600A78B00A78B00A78D00A78D00A79000A79000A79200A792,
   0x00A79600A79600A79800A79800A79A00A79A00A79C00A79C00A79E00A79E00A7A000A7A0,
   0x00A7A200A7A200A7A400A7A400A7A600A7A600A7A800A7A800A7AA00A7AE00A7B000A7B4,
   0x00A7B600A7B600A7B800A7B800A7BA00A7BA00A7BC00A7BC00A7BE00A7BE00A7C000A7C0,
   0x00A7C200A7C200A7C400A7C700A7C900A7C900A7CB00A7CC00A7D000A7D000A7D600A7D6,
   0x00A7D800A7D800A7DA00A7DA00A7DC00A7DC00A7F500A7F500FF2100FF3A010400010427,
   0x0104B00104D301057001057A01057C01058A01058C010592010594010595010C80010CB2,
   0x010D50010D650118A00118BF016E40016E5F01D40001D41901D43401D44D01D46801D481,
   0x01D49C01D49C01D49E01D49F01D4A201D4A201D4A501D4A601D4A901D4AC01D4AE01D4B5,
   0x01D4D001D4E901D50401D50501D50701D50A01D50D01D51401D51601D51C01D53801D539,
   0x01D53B01D53E01D54001D54401D54601D54601D54A01D55001D56C01D58501D5A001D5B9,
   0x01D5D401D5ED01D60801D62101D63C01D65501D67001D68901D6A801D6C001D6E201D6FA,
   0x01D71C01D73401D75601D76E01D79001D7A801D7CA01D7CA01E90001E92101F13001F149,
   0x01F15001F16901F17001F189]

def cased : PackedRanges :=
  [0x00004100005A00006100007A0000AA0000AA0000B50000B50000BA0000BA0000C00000D6,
   0x0000D80000F60000F80001BA0001BC0001BF0001C40002930002950002B80002C00002C1,
   0x0002E00002E400034500034500037000037300037600037700037A00037D00037F00037F,
   0x00038600038600038800038A00038C00038C00038E0003A10003A30003F50003F7000481,
   0x00048A00052F0005310005560005600005880010A00010C50010C70010C70010CD0010CD,
   0x0010D00010FA0010FC0010FF0013A00013F50013F80013FD001C80001C8A001C90001CBA,
   0x001CBD001CBF001D00001DBF001E00001F15001F18001F1D001F20001F45001F48001F4D,
   0x001F50001F57001F59001F59001F5B001F5B001F5D001F5D001F5F001F7D001F80001FB4,
   0x001FB6001FBC001FBE001FBE001FC2001FC4001FC6001FCC001FD0001FD3001FD6001FDB,
   0x001FE0001FEC001FF2001FF4001FF6001FFC00207100207100207F00207F00209000209C,
   0x00210200210200210700210700210A00211300211500211500211900211D002124002124,
   0x00212600212600212800212800212A00212D00212F00213400213900213900213C00213F,
   0x00214500214900214E00214E00216000217F0021830021840024B60024E9002C00002CE4,
   0x002CEB002CEE002CF2002CF3002D00002D25002D27002D27002D2D002D2D00A64000A66D,
   0x00A68000A69D00A72200A78700A78B00A78E00A79000A7CD00A7D000A7D100A7D300A7D3,
   0x00A7D500A7DC00A7F200A7F600A7F800A7FA00AB3000AB5A00AB5C00AB6900AB7000ABBF,
   0x00FB0000FB0600FB1300FB1700FF2100FF3A00FF4100FF5A01040001044F0104B00104D3,
   0x0104D80104FB01057001057A01057C01058A01058C0105920105940105950105970105A1,
   0x0105A30105B10105B30105B90105BB0105BC0107800107800107830107850107870107B0,
   0x0107B20107BA010C80010CB2010CC0010CF2010D50010D65010D70010D850118A00118DF,
   0x016E40016E7F01D40001D45401D45601D49C01D49E01D49F01D4A201D4A201D4A501D4A6,
   0x01D4A901D4AC01D4AE01D4B901D4BB01D4BB01D4BD01D4C301D4C501D50501D50701D50A,
   0x01D50D01D51401D51601D51C01D51E01D53901D53B01D53E01D54001D54401D54601D546,
   0x01D54A01D55001D55201D6A501D6A801D6C001D6C201D6DA01D6DC01D6FA01D6FC01D714,
   0x01D71601D73401D73601D74E01D75001D76E01D77001D78801D78A01D7A801D7AA01D7C2,
   0x01D7C401D7CB01DF0001DF0901DF0B01DF1E01DF2501DF2A01E03001E06D01E90001E943,
   0x01F13001F14901F15001F16901F17001F189]

def caseIgnorable : PackedRanges :=
  [0x00002700002700002E00002E00003A00003A00005E00005E0000600000600000A80000A8,
   0x0000AD0000AD0000AF0000AF0000B40000B40000B70000B80002B000036F000374000375,
   0x00037A00037A00038400038500038700038700048300048900055900055900055F00055F,
   0x0005910005BD0005BF0005BF0005C10005C20005C40005C50005C70005C70005F40005F4,
   0x00060000060500061000061A00061C00061C00064000064000064B00065F000670000670,
   0x0006D60006DD0006DF0006E80006EA0006ED00070F00070F00071100071100073000074A,
   0x0007A60007B00007EB0007F50007FA0007FA0007FD0007FD00081600082D00085900085B,
   0x00088800088800089000089100089700089F0008C900090200093A00093A00093C00093C,
   0x00094100094800094D00094D000951000957000962000963000971000971000981000981,
   0x0009BC0009BC0009C10009C40009CD0009CD0009E20009E30009FE0009FE000A01000A02,
   0x000A3C000A3C000A41000A42000A47000A48000A4B000A4D000A51000A51000A70000A71,
   0x000A75000A75000A81000A82000ABC000ABC000AC1000AC5000AC7000AC8000ACD000ACD,
   0x000AE2000AE3000AFA000AFF000B01000B01000B3C000B3C000B3F000B3F000B41000B44,
   0x000B4D000B4D000B55000B56000B62000B63000B82000B82000BC0000BC0000BCD000BCD,
   0x000C00000C00000C04000C04000C3C000C3C000C3E000C40000C46000C48000C4A000C4D,
   0x000C55000C56000C62000C63000C81000C81000CBC000CBC000CBF000CBF000CC6000CC6,
   0x000CCC000CCD000CE2000CE3000D00000D01000D3B000D3C000D41000D44000D4D000D4D,
   0x000D62000D63000D81000D81000DCA000DCA000DD2000DD4000DD6000DD6000E31000E31,
   0x000E34000E3A000E46000E4E000EB1000EB1000EB4000EBC000EC6000EC6000EC8000ECE,
   0x000F18000F19000F35000F35000F37000F37000F39000F39000F71000F7E000F80000F84,
   0x000F86000F87000F8D000F97000F99000FBC000FC6000FC600102D001030001032001037,
   0x00103900103A00103D00103E00105800105900105E001060001071001074001082001082,
   0x00108500108600108D00108D00109D00109D0010FC0010FC00135D00135F001712001714,
   0x0017320017330017520017530017720017730017B40017B50017B70017BD0017C60017C6,
   0x0017C90017D30017D70017D70017DD0017DD00180B00180F001843001843001885001886,
   0x0018A90018A900192000192200192700192800193200193200193900193B001A17001A18,
   0x001A1B001A1B001A56001A56001A58001A5E001A60001A60001A62001A62001A65001A6C,
   0x001A73001A7C001A7F001A7F001AA7001AA7001AB0001ACE001B00001B03001B34001B34,
   0x001B36001B3A001B3C001B3C001B42001B42001B6B001B73001B80001B81001BA2001BA5,
   0x001BA8001BA9001BAB001BAD001BE6001BE6001BE8001BE9001BED001BED001BEF001BF1,
   0x001C2C001C33001C36001C37001C78001C7D001CD0001CD2001CD4001CE0001CE2001CE8,
   0x001CED001CED001CF4001CF4001CF8001CF9001D2C001D6A001D78001D78001D9B001DFF,
   0x001FBD001FBD001FBF001FC1001FCD001FCF001FDD001FDF001FED001FEF001FFD001FFE,
   0x00200B00200F00201800201900202400202400202700202700202A00202E002060002064,
   0x00206600206F00207100207100207F00207F00209000209C0020D00020F0002C7C002C7D,
   0x002CEF002CF1002D6F002D6F002D7F002D7F002DE0002DFF002E2F002E2F003005003005,
   0x00302A00302D00303100303500303B00303B00309900309E0030FC0030FE00A01500A015,
   0x00A4F800A4FD00A60C00A60C00A66F00A67200A67400A67D00A67F00A67F00A69C00A69F,
   0x00A6F000A6F100A70000A72100A77000A77000A78800A78A00A7F200A7F400A7F800A7F9,
   0x00A80200A80200A80600A80600A80B00A80B00A82500A82600A82C00A82C00A8C400A8C5,
   0x00A8E000A8F100A8FF00A8FF00A92600A92D00A94700A95100A98000A98200A9B300A9B3,
   0x00A9B600A9B900A9BC00A9BD00A9CF00A9CF00A9E500A9E600AA2900AA2E00AA3100AA32,
   0x00AA3500AA3600AA4300AA4300AA4C00AA4C00AA7000AA7000AA7C00AA7C00AAB000AAB0,
   0x00AAB200AAB400AAB700AAB800AABE00AABF00AAC100AAC100AADD00AADD00AAEC00AAED,
   0x00AAF300AAF400AAF600AAF600AB5B00AB5F00AB6900AB6B00ABE500ABE500ABE800ABE8,
   0x00ABED00ABED00FB1E00FB1E00FBB200FBC200FE0000FE0F00FE1300FE1300FE2000FE2F,
   0x00FE5200FE5200FE5500FE5500FEFF00FEFF00FF0700FF0700FF0E00FF0E00FF1A00FF1A,
   0x00FF3E00FF3E00FF4000FF4000FF7000FF7000FF9E00FF9F00FFE300FFE300FFF900FFFB,
   0x0101FD0101FD0102E00102E001037601037A0107800107850107870107B00107B20107BA,
   0x010A01010A03010A05010A06010A0C010A0F010A38010A3A010A3F010A3F010AE5010AE6,
   0x010D24010D27010D4E010D4E010D69010D6D010D6F010D6F010EAB010EAC010EFC010EFF,
   0x010F46010F50010F82010F85011001011001011038011046011070011070011073011074,
   0x01107F0110810110B30110B60110B90110BA0110BD0110BD0110C20110C20110CD0110CD,
   0x01110001110201112701112B01112D0111340111730111730111800111810111B60111BE,
   0x0111C90111CC0111CF0111CF01122F01123101123401123401123601123701123E01123E,
   0x0112410112410112DF0112DF0112E30112EA01130001130101133B01133C011340011340,
   0x01136601136C0113700113740113BB0113C00113CE0113CE0113D00113D00113D20113D2,
   0x0113E10113E201143801143F01144201144401144601144601145E01145E0114B30114B8,
   0x0114BA0114BA0114BF0114C00114C20114C30115B20115B50115BC0115BD0115BF0115C0,
   0x0115DC0115DD01163301163A01163D01163D01163F0116400116AB0116AB0116AD0116AD,
   0x0116B00116B50116B70116B701171D01171D01171F01171F01172201172501172701172B,
   0x01182F01183701183901183A01193B01193C01193E01193E0119430119430119D40119D7,
   0x0119DA0119DB0119E00119E0011A01011A0A011A33011A38011A3B011A3E011A47011A47,
   0x011A51011A56011A59011A5B011A8A011A96011A98011A99011C30011C36011C38011C3D,
   0x011C3F011C3F011C92011CA7011CAA011CB0011CB2011CB3011CB5011CB6011D31011D36,
   0x011D3A011D3A011D3C011D3D011D3F011D45011D47011D47011D90011D91011D95011D95,
   0x011D97011D97011EF3011EF4011F00011F01011F36011F3A011F40011F40011F42011F42,
   0x011F5A011F5A01343001344001344701345501611E01612901612D01612F016AF0016AF4,
   0x016B30016B36016B40016B43016D40016D42016D6B016D6C016F4F016F4F016F8F016F9F,
   0x016FE0016FE1016FE3016FE401AFF001AFF301AFF501AFFB01AFFD01AFFE01BC9D01BC9E,
   0x01BCA001BCA301CF0001CF2D01CF3001CF4601D16701D16901D17301D18201D18501D18B,
   0x01D1AA01D1AD01D24201D24401DA0001DA3601DA3B01DA6C01DA7501DA7501DA8401DA84,
   0x01DA9B01DA9F01DAA101DAAF01E00001E00601E00801E01801E01B01E02101E02301E024,
   0x01E02601E02A01E03001E06D01E08F01E08F01E13001E13D01E2AE01E2AE01E2EC01E2EF,
   0x01E4EB01E4EF01E5EE01E5EF01E8D001E8D601E94401E94B01F3FB01F3FF0E00010E0001,
   0x0E00200E007F0E01000E01EF]

def changesWhenCasefolded : PackedRanges :=
  [0x00004100005A0000B50000B50000C00000D60000D80000DF000100000100000102000102,
   0x00010400010400010600010600010800010800010A00010A00010C00010C00010E00010E,
   0x00011000011000011200011200011400011400011600011600011800011800011A00011A,
   0x00011C00011C00011E00011E000120000120000122000122000124000124000126000126,
   0x00012800012800012A00012A00012C00012C00012E00012E000130000130000132000132,
   0x00013400013400013600013600013900013900013B00013B00013D00013D00013F00013F,
   0x00014100014100014300014300014500014500014700014700014900014A00014C00014C,
   0x00014E00014E000150000150000152000152000154000154000156000156000158000158,
   0x00015A00015A00015C00015C00015E00015E000160000160000162000162000164000164,
   0x00016600016600016800016800016A00016A00016C00016C00016E00016E000170000170,
   0x00017200017200017400017400017600017600017800017900017B00017B00017D00017D,
   0x00017F00017F00018100018200018400018400018600018700018900018B00018E000191,
   0x00019300019400019600019800019C00019D00019F0001A00001A20001A20001A40001A4,
   0x0001A60001A70001A90001A90001AC0001AC0001AE0001AF0001B10001B30001B50001B5,
   0x0001B70001B80001BC0001BC0001C40001C50001C70001C80001CA0001CB0001CD0001CD,
   0x0001CF0001CF0001D10001D10001D30001D30001D50001D50001D70001D70001D90001D9,
   0x0001DB0001DB0001DE0001DE0001E00001E00001E20001E20001E40001E40001E60001E6,
   0x0001E80001E80001EA0001EA0001EC0001EC0001EE0001EE0001F10001F20001F40001F4,
   0x0001F60001F80001FA0001FA0001FC0001FC0001FE0001FE000200000200000202000202,
   0x00020400020400020600020600020800020800020A00020A00020C00020C00020E00020E,
   0x00021000021000021200021200021400021400021600021600021800021800021A00021A,
   0x00021C00021C00021E00021E000220000220000222000222000224000224000226000226,
   0x00022800022800022A00022A00022C00022C00022E00022E000230000230000232000232,
   0x00023A00023B00023D00023E00024100024100024300024600024800024800024A00024A,
   0x00024C00024C00024E00024E000345000345000370000370000372000372000376000376,
   0x00037F00037F00038600038600038800038A00038C00038C00038E00038F0003910003A1,
   0x0003A30003AB0003C20003C20003CF0003D10003D50003D60003D80003D80003DA0003DA,
   0x0003DC0003DC0003DE0003DE0003E00003E00003E20003E20003E40003E40003E60003E6,
   0x0003E80003E80003EA0003EA0003EC0003EC0003EE0003EE0003F00003F10003F40003F5,
   0x0003F70003F70003F90003FA0003FD00042F000460000460000462000462000464000464,
   0x00046600046600046800046800046A00046A00046C00046C00046E00046E000470000470,
   0x00047200047200047400047400047600047600047800047800047A00047A00047C00047C,
   0x00047E00047E00048000048000048A00048A00048C00048C00048E00048E000490000490,
   0x00049200049200049400049400049600049600049800049800049A00049A00049C00049C,
   0x00049E00049E0004A00004A00004A20004A20004A40004A40004A60004A60004A80004A8,
   0x0004AA0004AA0004AC0004AC0004AE0004AE0004B00004B00004B20004B20004B40004B4,
   0x0004B60004B60004B80004B80004BA0004BA0004BC0004BC0004BE0004BE0004C00004C1,
   0x0004C30004C30004C50004C50004C70004C70004C90004C90004CB0004CB0004CD0004CD,
   0x0004D00004D00004D20004D20004D40004D40004D60004D60004D80004D80004DA0004DA,
   0x0004DC0004DC0004DE0004DE0004E00004E00004E20004E20004E40004E40004E60004E6,
   0x0004E80004E80004EA0004EA0004EC0004EC0004EE0004EE0004F00004F00004F20004F2,
   0x0004F40004F40004F60004F60004F80004F80004FA0004FA0004FC0004FC0004FE0004FE,
   0x00050000050000050200050200050400050400050600050600050800050800050A00050A,
   0x00050C00050C00050E00050E000510000510000512000512000514000514000516000516,
   0x00051800051800051A00051A00051C00051C00051E00051E000520000520000522000522,
   0x00052400052400052600052600052800052800052A00052A00052C00052C00052E00052E,
   0x0005310005560005870005870010A00010C50010C70010C70010CD0010CD0013F80013FD,
   0x001C80001C89001C90001CBA001CBD001CBF001E00001E00001E02001E02001E04001E04,
   0x001E06001E06001E08001E08001E0A001E0A001E0C001E0C001E0E001E0E001E10001E10,
   0x001E12001E12001E14001E14001E16001E16001E18001E18001E1A001E1A001E1C001E1C,
   0x001E1E001E1E001E20001E20001E22001E22001E24001E24001E26001E26001E28001E28,
   0x001E2A001E2A001E2C001E2C001E2E001E2E001E30001E30001E32001E32001E34001E34,
   0x001E36001E36001E38001E38001E3A001E3A001E3C001E3C001E3E001E3E001E40001E40,
   0x001E42001E42001E44001E44001E46001E46001E48001E48001E4A001E4A001E4C001E4C,
   0x001E4E001E4E001E50001E50001E52001E52001E54001E54001E56001E56001E58001E58,
   0x001E5A001E5A001E5C001E5C001E5E001E5E001E60001E60001E62001E62001E64001E64,
   0x001E66001E66001E68001E68001E6A001E6A001E6C001E6C001E6E001E6E001E70001E70,
   0x001E72001E72001E74001E74001E76001E76001E78001E78001E7A001E7A001E7C001E7C,
   0x001E7E001E7E001E80001E80001E82001E82001E84001E84001E86001E86001E88001E88,
   0x001E8A001E8A001E8C001E8C001E8E001E8E001E90001E90001E92001E92001E94001E94,
   0x001E9A001E9B001E9E001E9E001EA0001EA0001EA2001EA2001EA4001EA4001EA6001EA6,
   0x001EA8001EA8001EAA001EAA001EAC001EAC001EAE001EAE001EB0001EB0001EB2001EB2,
   0x001EB4001EB4001EB6001EB6001EB8001EB8001EBA001EBA001EBC001EBC001EBE001EBE,
   0x001EC0001EC0001EC2001EC2001EC4001EC4001EC6001EC6001EC8001EC8001ECA001ECA,
   0x001ECC001ECC001ECE001ECE001ED0001ED0001ED2001ED2001ED4001ED4001ED6001ED6,
   0x001ED8001ED8001EDA001EDA001EDC001EDC001EDE001EDE001EE0001EE0001EE2001EE2,
   0x001EE4001EE4001EE6001EE6001EE8001EE8001EEA001EEA001EEC001EEC001EEE001EEE,
   0x001EF0001EF0001EF2001EF2001EF4001EF4001EF6001EF6001EF8001EF8001EFA001EFA,
   0x001EFC001EFC001EFE001EFE001F08001F0F001F18001F1D001F28001F2F001F38001F3F,
   0x001F48001F4D001F59001F59001F5B001F5B001F5D001F5D001F5F001F5F001F68001F6F,
   0x001F80001FAF001FB2001FB4001FB7001FBC001FC2001FC4001FC7001FCC001FD8001FDB,
   0x001FE8001FEC001FF2001FF4001FF7001FFC00212600212600212A00212B002132002132,
   0x00216000216F0021830021830024B60024CF002C00002C2F002C60002C60002C62002C64,
   0x002C67002C67002C69002C69002C6B002C6B002C6D002C70002C72002C72002C75002C75,
   0x002C7E002C80002C82002C82002C84002C84002C86002C86002C88002C88002C8A002C8A,
   0x002C8C002C8C002C8E002C8E002C90002C90002C92002C92002C94002C94002C96002C96,
   0x002C98002C98002C9A002C9A002C9C002C9C002C9E002C9E002CA0002CA0002CA2002CA2,
   0x002CA4002CA4002CA6002CA6002CA8002CA8002CAA002CAA002CAC002CAC002CAE002CAE,
   0x002CB0002CB0002CB2002CB2002CB4002CB4002CB6002CB6002CB8002CB8002CBA002CBA,
   0x002CBC002CBC002CBE002CBE002CC0002CC0002CC2002CC2002CC4002CC4002CC6002CC6,
   0x002CC8002CC8002CCA002CCA002CCC002CCC002CCE002CCE002CD0002CD0002CD2002CD2,
   0x002CD4002CD4002CD6002CD6002CD8002CD8002CDA002CDA002CDC002CDC002CDE002CDE,
   0x002CE0002CE0002CE2002CE2002CEB002CEB002CED002CED002CF2002CF200A64000A640,
   0x00A64200A64200A64400A64400A64600A64600A64800A64800A64A00A64A00A64C00A64C,
   0x00A64E00A64E00A65000A65000A65200A65200A65400A65400A65600A65600A65800A658,
   0x00A65A00A65A00A65C00A65C00A65E00A65E00A66000A66000A66200A66200A66400A664,
   0x00A66600A66600A66800A66800A66A00A66A00A66C00A66C00A68000A68000A68200A682,
   0x00A68400A68400A68600A68600A68800A68800A68A00A68A00A68C00A68C00A68E00A68E,
   0x00A69000A69000A69200A69200A69400A69400A69600A69600A69800A69800A69A00A69A,
   0x00A72200A72200A72400A72400A72600A72600A72800A72800A72A00A72A00A72C00A72C,
   0x00A72E00A72E00A73200A73200A73400A73400A73600A73600A73800A73800A73A00A73A,
   0x00A73C00A73C00A73E00A73E00A74000A74000A74200A74200A74400A74400A74600A746,
   0x00A74800A74800A74A00A74A00A74C00A74C00A74E00A74E00A75000A75000A75200A752,
   0x00A75400A75400A75600A75600A75800A75800A75A00A75A00A75C00A75C00A75E00A75E,
   0x00A76000A76000A76200A76200A76400A76400A76600A76600A76800A76800A76A00A76A,
   0x00A76C00A76C00A76E00A76E00A77900A77900A77B00A77B00A77D00A77E00A78000A780,
   0x00A78200A78200A78400A78400A78600A78600A78B00A78B00A78D00A78D00A79000A790,
   0x00A79200A79200A79600A79600A79800A79800A79A00A79A00A79C00A79C00A79E00A79E,
   0x00A7A000A7A000A7A200A7A200A7A400A7A400A7A600A7A600A7A800A7A800A7AA00A7AE,
   0x00A7B000A7B400A7B600A7B600A7B800A7B800A7BA00A7BA00A7BC00A7BC00A7BE00A7BE,
   0x00A7C000A7C000A7C200A7C200A7C400A7C700A7C900A7C900A7CB00A7CC00A7D000A7D0,
   0x00A7D600A7D600A7D800A7D800A7DA00A7DA00A7DC00A7DC00A7F500A7F500AB7000ABBF,
   0x00FB0000FB0600FB1300FB1700FF2100FF3A0104000104270104B00104D301057001057A,
   0x01057C01058A01058C010592010594010595010C80010CB2010D50010D650118A00118BF,
   0x016E40016E5F01E90001E921]

def changesWhenCasemapped : PackedRanges :=
  [0x00004100005A00006100007A0000B50000B50000C00000D60000D80000F60000F8000137,
   0x00013900018C00018E0001A90001AC0001B90001BC0001BD0001BF0001BF0001C4000220,
   0x00022200023300023A00025400025600025700025900025900025B00025C000260000261,
   0x00026300026600026800026C00026F00026F00027100027200027500027500027D00027D,
   0x00028000028000028200028300028700028C00029200029200029D00029E000345000345,
   0x00037000037300037600037700037B00037D00037F00037F00038600038600038800038A,
   0x00038C00038C00038E0003A10003A30003D10003D50003F50003F70003FB0003FD000481,
   0x00048A00052F0005310005560005610005870010A00010C50010C70010C70010CD0010CD,
   0x0010D00010FA0010FD0010FF0013A00013F50013F80013FD001C80001C8A001C90001CBA,
   0x001CBD001CBF001D79001D79001D7D001D7D001D8E001D8E001E00001E9B001E9E001E9E,
   0x001EA0001F15001F18001F1D001F20001F45001F48001F4D001F50001F57001F59001F59,
   0x001F5B001F5B001F5D001F5D001F5F001F7D001F80001FB4001FB6001FBC001FBE001FBE,
   0x001FC2001FC4001FC6001FCC001FD0001FD3001FD6001FDB001FE0001FEC001FF2001FF4,
   0x001FF6001FFC00212600212600212A00212B00213200213200214E00214E00216000217F,
   0x0021830021840024B60024E9002C00002C70002C72002C73002C75002C76002C7E002CE3,
   0x002CEB002CEE002CF2002CF3002D00002D25002D27002D27002D2D002D2D00A64000A66D,
   0x00A68000A69B00A72200A72F00A73200A76F00A77900A78700A78B00A78D00A79000A794,
   0x00A79600A7AE00A7B000A7CD00A7D000A7D100A7D600A7DC00A7F500A7F600AB5300AB53,
   0x00AB7000ABBF00FB0000FB0600FB1300FB1700FF2100FF3A00FF4100FF5A01040001044F,
   0x0104B00104D30104D80104FB01057001057A01057C01058A01058C010592010594010595,
   0x0105970105A10105A30105B10105B30105B90105BB0105BC010C80010CB2010CC0010CF2,
   0x010D50010D65010D70010D850118A00118DF016E40016E7F01E90001E943]

def changesWhenLowercased : PackedRanges :=
  [0x00004100005A0000C00000D60000D80000DE000100000100000102000102000104000104,
   0x00010600010600010800010800010A00010A00010C00010C00010E00010E000110000110,
   0x00011200011200011400011400011600011600011800011800011A00011A00011C00011C,
   0x00011E00011E000120000120000122000122000124000124000126000126000128000128,
   0x00012A00012A00012C00012C00012E00012E000130000130000132000132000134000134,
   0x00013600013600013900013900013B00013B00013D00013D00013F00013F000141000141,
   0x00014300014300014500014500014700014700014A00014A00014C00014C00014E00014E,
   0x00015000015000015200015200015400015400015600015600015800015800015A00015A,
   0x00015C00015C00015E00015E000160000160000162000162000164000164000166000166,
   0x00016800016800016A00016A00016C00016C00016E00016E000170000170000172000172,
   0x00017400017400017600017600017800017900017B00017B00017D00017D000181000182,
   0x00018400018400018600018700018900018B00018E000191000193000194000196000198,
   0x00019C00019D00019F0001A00001A20001A20001A40001A40001A60001A70001A90001A9,
   0x0001AC0001AC0001AE0001AF0001B10001B30001B50001B50001B70001B80001BC0001BC,
   0x0001C40001C50001C70001C80001CA0001CB0001CD0001CD0001CF0001CF0001D10001D1,
   0x0001D30001D30001D50001D50001D70001D70001D90001D90001DB0001DB0001DE0001DE,
   0x0001E00001E00001E20001E20001E40001E40001E60001E60001E80001E80001EA0001EA,
   0x0001EC0001EC0001EE0001EE0001F10001F20001F40001F40001F60001F80001FA0001FA,
   0x0001FC0001FC0001FE0001FE000200000200000202000202000204000204000206000206,
   0x00020800020800020A00020A00020C00020C00020E00020E000210000210000212000212,
   0x00021400021400021600021600021800021800021A00021A00021C00021C00021E00021E,
   0x00022000022000022200022200022400022400022600022600022800022800022A00022A,
   0x00022C00022C00022E00022E00023000023000023200023200023A00023B00023D00023E,
   0x00024100024100024300024600024800024800024A00024A00024C00024C00024E00024E,
   0x00037000037000037200037200037600037600037F00037F00038600038600038800038A,
   0x00038C00038C00038E00038F0003910003A10003A30003AB0003CF0003CF0003D80003D8,
   0x0003DA0003DA0003DC0003DC0003DE0003DE0003E00003E00003E20003E20003E40003E4,
   0x0003E60003E60003E80003E80003EA0003EA0003EC0003EC0003EE0003EE0003F40003F4,
   0x0003F70003F70003F90003FA0003FD00042F000460000460000462000462000464000464,
   0x00046600046600046800046800046A00046A00046C00046C00046E00046E000470000470,
   0x00047200047200047400047400047600047600047800047800047A00047A00047C00047C,
   0x00047E00047E00048000048000048A00048A00048C00048C00048E00048E000490000490,
   0x00049200049200049400049400049600049600049800049800049A00049A00049C00049C,
   0x00049E00049E0004A00004A00004A20004A20004A40004A40004A60004A60004A80004A8,
   0x0004AA0004AA0004AC0004AC0004AE0004AE0004B00004B00004B20004B20004B40004B4,
   0x0004B60004B60004B80004B80004BA0004BA0004BC0004BC0004BE0004BE0004C00004C1,
   0x0004C30004C30004C50004C50004C70004C70004C90004C90004CB0004CB0004CD0004CD,
   0x0004D00004D00004D20004D20004D40004D40004D60004D60004D80004D80004DA0004DA,
   0x0004DC0004DC0004DE0004DE0004E00004E00004E20004E20004E40004E40004E60004E6,
   0x0004E80004E80004EA0004EA0004EC0004EC0004EE0004EE0004F00004F00004F20004F2,
   0x0004F40004F40004F60004F60004F80004F80004FA0004FA0004FC0004FC0004FE0004FE,
   0x00050000050000050200050200050400050400050600050600050800050800050A00050A,
   0x00050C00050C00050E00050E000510000510000512000512000514000514000516000516,
   0x00051800051800051A00051A00051C00051C00051E00051E000520000520000522000522,
   0x00052400052400052600052600052800052800052A00052A00052C00052C00052E00052E,
   0x0005310005560010A00010C50010C70010C70010CD0010CD0013A00013F5001C89001C89,
   0x001C90001CBA001CBD001CBF001E00001E00001E02001E02001E04001E04001E06001E06,
   0x001E08001E08001E0A001E0A001E0C001E0C001E0E001E0E001E10001E10001E12001E12,
   0x001E14001E14001E16001E16001E18001E18001E1A001E1A001E1C001E1C001E1E001E1E,
   0x001E20001E20001E22001E22001E24001E24001E26001E26001E28001E28001E2A001E2A,
   0x001E2C001E2C001E2E001E2E001E30001E30001E32001E32001E34001E34001E36001E36,
   0x001E38001E38001E3A001E3A001E3C001E3C001E3E001E3E001E40001E40001E42001E42,
   0x001E44001E44001E46001E46001E48001E48001E4A001E4A001E4C001E4C001E4E001E4E,
   0x001E50001E50001E52001E52001E54001E54001E56001E56001E58001E58001E5A001E5A,
   0x001E5C001E5C001E5E001E5E001E60001E60001E62001E62001E64001E64001E66001E66,
   0x001E68001E68001E6A001E6A001E6C001E6C001E6E001E6E001E70001E70001E72001E72,
   0x001E74001E74001E76001E76001E78001E78001E7A001E7A001E7C001E7C001E7E001E7E,
   0x001E80001E80001E82001E82001E84001E84001E86001E86001E88001E88001E8A001E8A,
   0x001E8C001E8C001E8E001E8E001E90001E90001E92001E92001E94001E94001E9E001E9E,
   0x001EA0001EA0001EA2001EA2001EA4001EA4001EA6001EA6001EA8001EA8001EAA001EAA,
   0x001EAC001EAC001EAE001EAE001EB0001EB0001EB2001EB2001EB4001EB4001EB6001EB6,
   0x001EB8001EB8001EBA001EBA001EBC001EBC001EBE001EBE001EC0001EC0001EC2001EC2,
   0x001EC4001EC4001EC6001EC6001EC8001EC8001ECA001ECA001ECC001ECC001ECE001ECE,
   0x001ED0001ED0001ED2001ED2001ED4001ED4001ED6001ED6001ED8001ED8001EDA001EDA,
   0x001EDC001EDC001EDE001EDE001EE0001EE0001EE2001EE2001EE4001EE4001EE6001EE6,
   0x001EE8001EE8001EEA001EEA001EEC001EEC001EEE001EEE001EF0001EF0001EF2001EF2,
   0x001EF4001EF4001EF6001EF6001EF8001EF8001EFA001EFA001EFC001EFC001EFE001EFE,
   0x001F08001F0F001F18001F1D001F28001F2F001F38001F3F001F48001F4D001F59001F59,
   0x001F5B001F5B001F5D001F5D001F5F001F5F001F68001F6F001F88001F8F001F98001F9F,
   0x001FA8001FAF001FB8001FBC001FC8001FCC001FD8001FDB001FE8001FEC001FF8001FFC,
   0x00212600212600212A00212B00213200213200216000216F0021830021830024B60024CF,
   0x002C00002C2F002C60002C60002C62002C64002C67002C67002C69002C69002C6B002C6B,
   0x002C6D002C70002C72002C72002C75002C75002C7E002C80002C82002C82002C84002C84,
   0x002C86002C86002C88002C88002C8A002C8A002C8C002C8C002C8E002C8E002C90002C90,
   0x002C92002C92002C94002C94002C96002C96002C98002C98002C9A002C9A002C9C002C9C,
   0x002C9E002C9E002CA0002CA0002CA2002CA2002CA4002CA4002CA6002CA6002CA8002CA8,
   0x002CAA002CAA002CAC002CAC002CAE002CAE002CB0002CB0002CB2002CB2002CB4002CB4,
   0x002CB6002CB6002CB8002CB8002CBA002CBA002CBC002CBC002CBE002CBE002CC0002CC0,
   0x002CC2002CC2002CC4002CC4002CC6002CC6002CC8002CC8002CCA002CCA002CCC002CCC,
   0x002CCE002CCE002CD0002CD0002CD2002CD2002CD4002CD4002CD6002CD6002CD8002CD8,
   0x002CDA002CDA002CDC002CDC002CDE002CDE002CE0002CE0002CE2002CE2002CEB002CEB,
   0x002CED002CED002CF2002CF200A64000A64000A64200A64200A64400A64400A64600A646,
   0x00A64800A64800A64A00A64A00A64C00A64C00A64E00A64E00A65000A65000A65200A652,
   0x00A65400A65400A65600A65600A65800A65800A65A00A65A00A65C00A65C00A65E00A65E,
   0x00A66000A66000A66200A66200A66400A66400A66600A66600A66800A66800A66A00A66A,
   0x00A66C00A66C00A68000A68000A68200A68200A68400A68400A68600A68600A68800A688,
   0x00A68A00A68A00A68C00A68C00A68E00A68E00A69000A69000A69200A69200A69400A694,
   0x00A69600A69600A69800A69800A69A00A69A00A72200A72200A72400A72400A72600A726,
   0x00A72800A72800A72A00A72A00A72C00A72C00A72E00A72E00A73200A73200A73400A734,
   0x00A73600A73600A73800A73800A73A00A73A00A73C00A73C00A73E00A73E00A74000A740,
   0x00A74200A74200A74400A74400A74600A74600A74800A74800A74A00A74A00A74C00A74C,
   0x00A74E00A74E00A75000A75000A75200A75200A75400A75400A75600A75600A75800A758,
   0x00A75A00A75A00A75C00A75C00A75E00A75E00A76000A76000A76200A76200A76400A764,
   0x00A76600A76600A76800A76800A76A00A76A00A76C00A76C00A76E00A76E00A77900A779,
   0x00A77B00A77B00A77D00A77E00A78000A78000A78200A78200A78400A78400A78600A786,
   0x00A78B00A78B00A78D00A78D00A79000A79000A79200A79200A79600A79600A79800A798,
   0x00A79A00A79A00A79C00A79C00A79E00A79E00A7A000A7A000A7A200A7A200A7A400A7A4,
   0x00A7A600A7A600A7A800A7A800A7AA00A7AE00A7B000A7B400A7B600A7B600A7B800A7B8,
   0x00A7BA00A7BA00A7BC00A7BC00A7BE00A7BE00A7C000A7C000A7C200A7C200A7C400A7C7,
   0x00A7C900A7C900A7CB00A7CC00A7D000A7D000A7D600A7D600A7D800A7D800A7DA00A7DA,
   0x00A7DC00A7DC00A7F500A7F500FF2100FF3A0104000104270104B00104D301057001057A,
   0x01057C01058A01058C010592010594010595010C80010CB2010D50010D650118A00118BF,
   0x016E40016E5F01E90001E921]

def changesWhenTitlecased : PackedRanges :=
  [0x00006100007A0000B50000B50000DF0000F60000F80000FF000101000101000103000103,
   0x00010500010500010700010700010900010900010B00010B00010D00010D00010F00010F,
   0x00011100011100011300011300011500011500011700011700011900011900011B00011B,
   0x00011D00011D00011F00011F000121000121000123000123000125000125000127000127,
   0x00012900012900012B00012B00012D00012D00012F00012F000131000131000133000133,
   0x00013500013500013700013700013A00013A00013C00013C00013E00013E000140000140,
   0x00014200014200014400014400014600014600014800014900014B00014B00014D00014D,
   0x00014F00014F000151000151000153000153000155000155000157000157000159000159,
   0x00015B00015B00015D00015D00015F00015F000161000161000163000163000165000165,
   0x00016700016700016900016900016B00016B00016D00016D00016F00016F000171000171,
   0x00017300017300017500017500017700017700017A00017A00017C00017C00017E000180,
   0x00018300018300018500018500018800018800018C00018C000192000192000195000195,
   0x00019900019B00019E00019E0001A10001A10001A30001A30001A50001A50001A80001A8,
   0x0001AD0001AD0001B00001B00001B40001B40001B60001B60001B90001B90001BD0001BD,
   0x0001BF0001BF0001C40001C40001C60001C70001C90001CA0001CC0001CC0001CE0001CE,
   0x0001D00001D00001D20001D20001D40001D40001D60001D60001D80001D80001DA0001DA,
   0x0001DC0001DD0001DF0001DF0001E10001E10001E30001E30001E50001E50001E70001E7,
   0x0001E90001E90001EB0001EB0001ED0001ED0001EF0001F10001F30001F30001F50001F5,
   0x0001F90001F90001FB0001FB0001FD0001FD0001FF0001FF000201000201000203000203,
   0x00020500020500020700020700020900020900020B00020B00020D00020D00020F00020F,
   0x00021100021100021300021300021500021500021700021700021900021900021B00021B,
   0x00021D00021D00021F00021F000223000223000225000225000227000227000229000229,
   0x00022B00022B00022D00022D00022F00022F00023100023100023300023300023C00023C,
   0x00023F00024000024200024200024700024700024900024900024B00024B00024D00024D,
   0x00024F00025400025600025700025900025900025B00025C000260000261000263000266,
   0x00026800026C00026F00026F00027100027200027500027500027D00027D000280000280,
   0x00028200028300028700028C00029200029200029D00029E000345000345000371000371,
   0x00037300037300037700037700037B00037D0003900003900003AC0003CE0003D00003D1,
   0x0003D50003D70003D90003D90003DB0003DB0003DD0003DD0003DF0003DF0003E10003E1,
   0x0003E30003E30003E50003E50003E70003E70003E90003E90003EB0003EB0003ED0003ED,
   0x0003EF0003F30003F50003F50003F80003F80003FB0003FB00043000045F000461000461,
   0x00046300046300046500046500046700046700046900046900046B00046B00046D00046D,
   0x00046F00046F000471000471000473000473000475000475000477000477000479000479,
   0x00047B00047B00047D00047D00047F00047F00048100048100048B00048B00048D00048D,
   0x00048F00048F000491000491000493000493000495000495000497000497000499000499,
   0x00049B00049B00049D00049D00049F00049F0004A10004A10004A30004A30004A50004A5,
   0x0004A70004A70004A90004A90004AB0004AB0004AD0004AD0004AF0004AF0004B10004B1,
   0x0004B30004B30004B50004B50004B70004B70004B90004B90004BB0004BB0004BD0004BD,
   0x0004BF0004BF0004C20004C20004C40004C40004C60004C60004C80004C80004CA0004CA,
   0x0004CC0004CC0004CE0004CF0004D10004D10004D30004D30004D50004D50004D70004D7,
   0x0004D90004D90004DB0004DB0004DD0004DD0004DF0004DF0004E10004E10004E30004E3,
   0x0004E50004E50004E70004E70004E90004E90004EB0004EB0004ED0004ED0004EF0004EF,
   0x0004F10004F10004F30004F30004F50004F50004F70004F70004F90004F90004FB0004FB,
   0x0004FD0004FD0004FF0004FF000501000501000503000503000505000505000507000507,
   0x00050900050900050B00050B00050D00050D00050F00050F000511000511000513000513,
   0x00051500051500051700051700051900051900051B00051B00051D00051D00051F00051F,
   0x00052100052100052300052300052500052500052700052700052900052900052B00052B,
   0x00052D00052D00052F00052F0005610005870013F80013FD001C80001C88001C8A001C8A,
   0x001D79001D79001D7D001D7D001D8E001D8E001E01001E01001E03001E03001E05001E05,
   0x001E07001E07001E09001E09001E0B001E0B001E0D001E0D001E0F001E0F001E11001E11,
   0x001E13001E13001E15001E15001E17001E17001E19001E19001E1B001E1B001E1D001E1D,
   0x001E1F001E1F001E21001E21001E23001E23001E25001E25001E27001E27001E29001E29,
   0x001E2B001E2B001E2D001E2D001E2F001E2F001E31001E31001E33001E33001E35001E35,
   0x001E37001E37001E39001E39001E3B001E3B001E3D001E3D001E3F001E3F001E41001E41,
   0x001E43001E43001E45001E45001E47001E47001E49001E49001E4B001E4B001E4D001E4D,
   0x001E4F001E4F001E51001E51001E53001E53001E55001E55001E57001E57001E59001E59,
   0x001E5B001E5B001E5D001E5D001E5F001E5F001E61001E61001E63001E63001E65001E65,
   0x001E67001E67001E69001E69001E6B001E6B001E6D001E6D001E6F001E6F001E71001E71,
   0x001E73001E73001E75001E75001E77001E77001E79001E79001E7B001E7B001E7D001E7D,
   0x001E7F001E7F001E81001E81001E83001E83001E85001E85001E87001E87001E89001E89,
   0x001E8B001E8B001E8D001E8D001E8F001E8F001E91001E91001E93001E93001E95001E9B,
   0x001EA1001EA1001EA3001EA3001EA5001EA5001EA7001EA7001EA9001EA9001EAB001EAB,
   0x001EAD001EAD001EAF001EAF001EB1001EB1001EB3001EB3001EB5001EB5001EB7001EB7,
   0x001EB9001EB9001EBB001EBB001EBD001EBD001EBF001EBF001EC1001EC1001EC3001EC3,
   0x001EC5001EC5001EC7001EC7001EC9001EC9001ECB001ECB001ECD001ECD001ECF001ECF,
   0x001ED1001ED1001ED3001ED3001ED5001ED5001ED7001ED7001ED9001ED9001EDB001EDB,
   0x001EDD001EDD001EDF001EDF001EE1001EE1001EE3001EE3001EE5001EE5001EE7001EE7,
   0x001EE9001EE9001EEB001EEB001EED001EED001EEF001EEF001EF1001EF1001EF3001EF3,
   0x001EF5001EF5001EF7001EF7001EF9001EF9001EFB001EFB001EFD001EFD001EFF001F07,
   0x001F10001F15001F20001F27001F30001F37001F40001F45001F50001F57001F60001F67,
   0x001F70001F7D001F80001F87001F90001F97001FA0001FA7001FB0001FB4001FB6001FB7,
   0x001FBE001FBE001FC2001FC4001FC6001FC7001FD0001FD3001FD6001FD7001FE0001FE7,
   0x001FF2001FF4001FF6001FF700214E00214E00217000217F0021840021840024D00024E9,
   0x002C30002C5F002C61002C61002C65002C66002C68002C68002C6A002C6A002C6C002C6C,
   0x002C73002C73002C76002C76002C81002C81002C83002C83002C85002C85002C87002C87,
   0x002C89002C89002C8B002C8B002C8D002C8D002C8F002C8F002C91002C91002C93002C93,
   0x002C95002C95002C97002C97002C99002C99002C9B002C9B002C9D002C9D002C9F002C9F,
   0x002CA1002CA1002CA3002CA3002CA5002CA5002CA7002CA7002CA9002CA9002CAB002CAB,
   0x002CAD002CAD002CAF002CAF002CB1002CB1002CB3002CB3002CB5002CB5002CB7002CB7,
   0x002CB9002CB9002CBB002CBB002CBD002CBD002CBF002CBF002CC1002CC1002CC3002CC3,
   0x002CC5002CC5002CC7002CC7002CC9002CC9002CCB002CCB002CCD002CCD002CCF002CCF,
   0x002CD1002CD1002CD3002CD3002CD5002CD5002CD7002CD7002CD9002CD9002CDB002CDB,
   0x002CDD002CDD002CDF002CDF002CE1002CE1002CE3002CE3002CEC002CEC002CEE002CEE,
   0x002CF3002CF3002D00002D25002D27002D27002D2D002D2D00A64100A64100A64300A643,
   0x00A64500A64500A64700A64700A64900A64900A64B00A64B00A64D00A64D00A64F00A64F,
   0x00A65100A65100A65300A65300A65500A65500A65700A65700A65900A65900A65B00A65B,
   0x00A65D00A65D00A65F00A65F00A66100A66100A66300A66300A66500A66500A66700A667,
   0x00A66900A66900A66B00A66B00A66D00A66D00A68100A68100A68300A68300A68500A685,
   0x00A68700A68700A68900A68900A68B00A68B00A68D00A68D00A68F00A68F00A69100A691,
   0x00A69300A69300A69500A69500A69700A69700A69900A69900A69B00A69B00A72300A723,
   0x00A72500A72500A72700A72700A72900A72900A72B00A72B00A72D00A72D00A72F00A72F,
   0x00A73300A73300A73500A73500A73700A73700A73900A73900A73B00A73B00A73D00A73D,
   0x00A73F00A73F00A74100A74100A74300A74300A74500A74500A74700A74700A74900A749,
   0x00A74B00A74B00A74D00A74D00A74F00A74F00A75100A75100A75300A75300A75500A755,
   0x00A75700A75700A75900A75900A75B00A75B00A75D00A75D00A75F00A75F00A76100A761,
   0x00A76300A76300A76500A76500A76700A76700A76900A76900A76B00A76B00A76D00A76D,
   0x00A76F00A76F00A77A00A77A00A77C00A77C00A77F00A77F00A78100A78100A78300A783,
   0x00A78500A78500A78700A78700A78C00A78C00A79100A79100A79300A79400A79700A797,
   0x00A79900A79900A79B00A79B00A79D00A79D00A79F00A79F00A7A100A7A100A7A300A7A3,
   0x00A7A500A7A500A7A700A7A700A7A900A7A900A7B500A7B500A7B700A7B700A7B900A7B9,
   0x00A7BB00A7BB00A7BD00A7BD00A7BF00A7BF00A7C100A7C100A7C300A7C300A7C800A7C8,
   0x00A7CA00A7CA00A7CD00A7CD00A7D100A7D100A7D700A7D700A7D900A7D900A7DB00A7DB,
   0x00A7F600A7F600AB5300AB5300AB7000ABBF00FB0000FB0600FB1300FB1700FF4100FF5A,
   0x01042801044F0104D80104FB0105970105A10105A30105B10105B30105B90105BB0105BC,
   0x010CC0010CF2010D70010D850118C00118DF016E60016E7F01E92201E943]

def changesWhenUppercased : PackedRanges :=
  [0x00006100007A0000B50000B50000DF0000F60000F80000FF000101000101000103000103,
   0x00010500010500010700010700010900010900010B00010B00010D00010D00010F00010F,
   0x00011100011100011300011300011500011500011700011700011900011900011B00011B,
   0x00011D00011D00011F00011F000121000121000123000123000125000125000127000127,
   0x00012900012900012B00012B00012D00012D00012F00012F000131000131000133000133,
   0x00013500013500013700013700013A00013A00013C00013C00013E00013E000140000140,
   0x00014200014200014400014400014600014600014800014900014B00014B00014D00014D,
   0x00014F00014F000151000151000153000153000155000155000157000157000159000159,
   0x00015B00015B00015D00015D00015F00015F000161000161000163000163000165000165,
   0x00016700016700016900016900016B00016B00016D00016D00016F00016F000171000171,
   0x00017300017300017500017500017700017700017A00017A00017C00017C00017E000180,
   0x00018300018300018500018500018800018800018C00018C000192000192000195000195,
   0x00019900019B00019E00019E0001A10001A10001A30001A30001A50001A50001A80001A8,
   0x0001AD0001AD0001B00001B00001B40001B40001B60001B60001B90001B90001BD0001BD,
   0x0001BF0001BF0001C50001C60001C80001C90001CB0001CC0001CE0001CE0001D00001D0,
   0x0001D20001D20001D40001D40001D60001D60001D80001D80001DA0001DA0001DC0001DD,
   0x0001DF0001DF0001E10001E10001E30001E30001E50001E50001E70001E70001E90001E9,
   0x0001EB0001EB0001ED0001ED0001EF0001F00001F20001F30001F50001F50001F90001F9,
   0x0001FB0001FB0001FD0001FD0001FF0001FF000201000201000203000203000205000205,
   0x00020700020700020900020900020B00020B00020D00020D00020F00020F000211000211,
   0x00021300021300021500021500021700021700021900021900021B00021B00021D00021D,
   0x00021F00021F00022300022300022500022500022700022700022900022900022B00022B,
   0x00022D00022D00022F00022F00023100023100023300023300023C00023C00023F000240,
   0x00024200024200024700024700024900024900024B00024B00024D00024D00024F000254,
   0x00025600025700025900025900025B00025C00026000026100026300026600026800026C,
   0x00026F00026F00027100027200027500027500027D00027D000280000280000282000283,
   0x00028700028C00029200029200029D00029E000345000345000371000371000373000373,
   0x00037700037700037B00037D0003900003900003AC0003CE0003D00003D10003D50003D7,
   0x0003D90003D90003DB0003DB0003DD0003DD0003DF0003DF0003E10003E10003E30003E3,
   0x0003E50003E50003E70003E70003E90003E90003EB0003EB0003ED0003ED0003EF0003F3,
   0x0003F50003F50003F80003F80003FB0003FB00043000045F000461000461000463000463,
   0x00046500046500046700046700046900046900046B00046B00046D00046D00046F00046F,
   0x00047100047100047300047300047500047500047700047700047900047900047B00047B,
   0x00047D00047D00047F00047F00048100048100048B00048B00048D00048D00048F00048F,
   0x00049100049100049300049300049500049500049700049700049900049900049B00049B,
   0x00049D00049D00049F00049F0004A10004A10004A30004A30004A50004A50004A70004A7,
   0x0004A90004A90004AB0004AB0004AD0004AD0004AF0004AF0004B10004B10004B30004B3,
   0x0004B50004B50004B70004B70004B90004B90004BB0004BB0004BD0004BD0004BF0004BF,
   0x0004C20004C20004C40004C40004C60004C60004C80004C80004CA0004CA0004CC0004CC,
   0x0004CE0004CF0004D10004D10004D30004D30004D50004D50004D70004D70004D90004D9,
   0x0004DB0004DB0004DD0004DD0004DF0004DF0004E10004E10004E30004E30004E50004E5,
   0x0004E70004E70004E90004E90004EB0004EB0004ED0004ED0004EF0004EF0004F10004F1,
   0x0004F30004F30004F50004F50004F70004F70004F90004F90004FB0004FB0004FD0004FD,
   0x0004FF0004FF000501000501000503000503000505000505000507000507000509000509,
   0x00050B00050B00050D00050D00050F00050F000511000511000513000513000515000515,
   0x00051700051700051900051900051B00051B00051D00051D00051F00051F000521000521,
   0x00052300052300052500052500052700052700052900052900052B00052B00052D00052D,
   0x00052F00052F0005610005870010D00010FA0010FD0010FF0013F80013FD001C80001C88,
   0x001C8A001C8A001D79001D79001D7D001D7D001D8E001D8E001E01001E01001E03001E03,
   0x001E05001E05001E07001E07001E09001E09001E0B001E0B001E0D001E0D001E0F001E0F,
   0x001E11001E11001E13001E13001E15001E15001E17001E17001E19001E19001E1B001E1B,
   0x001E1D001E1D001E1F001E1F001E21001E21001E23001E23001E25001E25001E27001E27,
   0x001E29001E29001E2B001E2B001E2D001E2D001E2F001E2F001E31001E31001E33001E33,
   0x001E35001E35001E37001E37001E39001E39001E3B001E3B001E3D001E3D001E3F001E3F,
   0x001E41001E41001E43001E43001E45001E45001E47001E47001E49001E49001E4B001E4B,
   0x001E4D001E4D001E4F001E4F001E51001E51001E53001E53001E55001E55001E57001E57,
   0x001E59001E59001E5B001E5B001E5D001E5D001E5F001E5F001E61001E61001E63001E63,
   0x001E65001E65001E67001E67001E69001E69001E6B001E6B001E6D001E6D001E6F001E6F,
   0x001E71001E71001E73001E73001E75001E75001E77001E77001E79001E79001E7B001E7B,
   0x001E7D001E7D001E7F001E7F001E81001E81001E83001E83001E85001E85001E87001E87,
   0x001E89001E89001E8B001E8B001E8D001E8D001E8F001E8F001E91001E91001E93001E93,
   0x001E95001E9B001EA1001EA1001EA3001EA3001EA5001EA5001EA7001EA7001EA9001EA9,
   0x001EAB001EAB001EAD001EAD001EAF001EAF001EB1001EB1001EB3001EB3001EB5001EB5,
   0x001EB7001EB7001EB9001EB9001EBB001EBB001EBD001EBD001EBF001EBF001EC1001EC1,
   0x001EC3001EC3001EC5001EC5001EC7001EC7001EC9001EC9001ECB001ECB001ECD001ECD,
   0x001ECF001ECF001ED1001ED1001ED3001ED3001ED5001ED5001ED7001ED7001ED9001ED9,
   0x001EDB001EDB001EDD001EDD001EDF001EDF001EE1001EE1001EE3001EE3001EE5001EE5,
   0x001EE7001EE7001EE9001EE9001EEB001EEB001EED001EED001EEF001EEF001EF1001EF1,
   0x001EF3001EF3001EF5001EF5001EF7001EF7001EF9001EF9001EFB001EFB001EFD001EFD,
   0x001EFF001F07001F10001F15001F20001F27001F30001F37001F40001F45001F50001F57,
   0x001F60001F67001F70001F7D001F80001FB4001FB6001FB7001FBC001FBC001FBE001FBE,
   0x001FC2001FC4001FC6001FC7001FCC001FCC001FD0001FD3001FD6001FD7001FE0001FE7,
   0x001FF2001FF4001FF6001FF7001FFC001FFC00214E00214E00217000217F002184002184,
   0x0024D00024E9002C30002C5F002C61002C61002C65002C66002C68002C68002C6A002C6A,
   0x002C6C002C6C002C73002C73002C76002C76002C81002C81002C83002C83002C85002C85,
   0x002C87002C87002C89002C89002C8B002C8B002C8D002C8D002C8F002C8F002C91002C91,
   0x002C93002C93002C95002C95002C97002C97002C99002C99002C9B002C9B002C9D002C9D,
   0x002C9F002C9F002CA1002CA1002CA3002CA3002CA5002CA5002CA7002CA7002CA9002CA9,
   0x002CAB002CAB002CAD002CAD002CAF002CAF002CB1002CB1002CB3002CB3002CB5002CB5,
   0x002CB7002CB7002CB9002CB9002CBB002CBB002CBD002CBD002CBF002CBF002CC1002CC1,
   0x002CC3002CC3002CC5002CC5002CC7002CC7002CC9002CC9002CCB002CCB002CCD002CCD,
   0x002CCF002CCF002CD1002CD1002CD3002CD3002CD5002CD5002CD7002CD7002CD9002CD9,
   0x002CDB002CDB002CDD002CDD002CDF002CDF002CE1002CE1002CE3002CE3002CEC002CEC,
   0x002CEE002CEE002CF3002CF3002D00002D25002D27002D27002D2D002D2D00A64100A641,
   0x00A64300A64300A64500A64500A64700A64700A64900A64900A64B00A64B00A64D00A64D,
   0x00A64F00A64F00A65100A65100A65300A65300A65500A65500A65700A65700A65900A659,
   0x00A65B00A65B00A65D00A65D00A65F00A65F00A66100A66100A66300A66300A66500A665,
   0x00A66700A66700A66900A66900A66B00A66B00A66D00A66D00A68100A68100A68300A683,
   0x00A68500A68500A68700A68700A68900A68900A68B00A68B00A68D00A68D00A68F00A68F,
   0x00A69100A69100A69300A69300A69500A69500A69700A69700A69900A69900A69B00A69B,
   0x00A72300A72300A72500A72500A72700A72700A72900A72900A72B00A72B00A72D00A72D,
   0x00A72F00A72F00A73300A73300A73500A73500A73700A73700A73900A73900A73B00A73B,
   0x00A73D00A73D00A73F00A73F00A74100A74100A74300A74300A74500A74500A74700A747,
   0x00A74900A74900A74B00A74B00A74D00A74D00A74F00A74F00A75100A75100A75300A753,
   0x00A75500A75500A75700A75700A75900A75900A75B00A75B00A75D00A75D00A75F00A75F,
   0x00A76100A76100A76300A76300A76500A76500A76700A76700A76900A76900A76B00A76B,
   0x00A76D00A76D00A76F00A76F00A77A00A77A00A77C00A77C00A77F00A77F00A78100A781,
   0x00A78300A78300A78500A78500A78700A78700A78C00A78C00A79100A79100A79300A794,
   0x00A79700A79700A79900A79900A79B00A79B00A79D00A79D00A79F00A79F00A7A100A7A1,
   0x00A7A300A7A300A7A500A7A500A7A700A7A700A7A900A7A900A7B500A7B500A7B700A7B7,
   0x00A7B900A7B900A7BB00A7BB00A7BD00A7BD00A7BF00A7BF00A7C100A7C100A7C300A7C3,
   0x00A7C800A7C800A7CA00A7CA00A7CD00A7CD00A7D100A7D100A7D700A7D700A7D900A7D9,
   0x00A7DB00A7DB00A7F600A7F600AB5300AB5300AB7000ABBF00FB0000FB0600FB1300FB17,
   0x00FF4100FF5A01042801044F0104D80104FB0105970105A10105A30105B10105B30105B9,
   0x0105BB0105BC010CC0010CF2010D70010D850118C00118DF016E60016E7F01E92201E943]

def softDotted : PackedRanges :=
  [0x00006900006A00012F00012F00024900024900026800026800029D00029D0002B20002B2,
   0x0003F30003F3000456000456000458000458001D62001D62001D96001D96001DA4001DA4,
   0x001DA8001DA8001E2D001E2D001ECB001ECB002071002071002148002149002C7C002C7C,
   0x01D42201D42301D45601D45701D48A01D48B01D4BE01D4BF01D4F201D4F301D52601D527,
   0x01D55A01D55B01D58E01D58F01D5C201D5C301D5F601D5F701D62A01D62B01D65E01D65F,
   0x01D69201D69301DF1A01DF1A01E04C01E04D01E06801E068]

/-- The tables of this module under the loosely matched names of their properties. -/
def byName : List (List String × PackedRanges) := [
  (["alpha", "alphabetic"], alphabetic),
  (["lower", "lowercase"], lowercase),
  (["upper", "uppercase"], uppercase),
  (["cased"], cased),
  (["ci", "caseignorable"], caseIgnorable),
  (["cwcf", "changeswhencasefolded"], changesWhenCasefolded),
  (["cwcm", "changeswhencasemapped"], changesWhenCasemapped),
  (["cwl", "changeswhenlowercased"], changesWhenLowercased),
  (["cwt", "changeswhentitlecased"], changesWhenTitlecased),
  (["cwu", "changeswhenuppercased"], changesWhenUppercased),
  (["sd", "softdotted"], softDotted)]

end Letters

end Unicode

end Scopelight
