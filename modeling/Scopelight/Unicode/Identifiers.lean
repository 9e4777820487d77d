import Scopelight.Unicode.Ranges

/-!
# Properties of identifiers

Yes-or-no properties that say where a code point may stand in a name or a pattern,
as packed range tables.
-/

namespace Scopelight

namespace Unicode

namespace Identifiers

def idStart : PackedRanges :=
  [0x00004100005A00006100007A0000AA0000AA0000B50000B50000BA0000BA0000C00000D6,
   0x0000D80000F60000F80002C10002C60002D10002E00002E40002EC0002EC0002EE0002EE,
   0x00037000037400037600037700037A00037D00037F00037F00038600038600038800038A,
   0x00038C00038C00038E0003A10003A30003F50003F700048100048A00052F000531000556,
   0x0005590005590005600005880005D00005EA0005EF0005F200062000064A00066E00066F,
   0x0006710006D30006D50006D50006E50006E60006EE0006EF0006FA0006FC0006FF0006FF,
   0x00071000071000071200072F00074D0007A50007B10007B10007CA0007EA0007F40007F5,
   0x0007FA0007FA00080000081500081A00081A000824000824000828000828000840000858,
   0x00086000086A00087000088700088900088E0008A00008C900090400093900093D00093D,
   0x00095000095000095800096100097100098000098500098C00098F0009900009930009A8,
   0x0009AA0009B00009B20009B20009B60009B90009BD0009BD0009CE0009CE0009DC0009DD,
   0x0009DF0009E10009F00009F10009FC0009FC000A05000A0A000A0F000A10000A13000A28,
   0x000A2A000A30000A32000A33000A35000A36000A38000A39000A59000A5C000A5E000A5E,
   0x000A72000A74000A85000A8D000A8F000A91000A93000AA8000AAA000AB0000AB2000AB3,
   0x000AB5000AB9000ABD000ABD000AD0000AD0000AE0000AE1000AF9000AF9000B05000B0C,
   0x000B0F000B10000B13000B28000B2A000B30000B32000B33000B35000B39000B3D000B3D,
   0x000B5C000B5D000B5F000B61000B71000B71000B83000B83000B85000B8A000B8E000B90,
   0x000B92000B95000B99000B9A000B9C000B9C000B9E000B9F000BA3000BA4000BA8000BAA,
   0x000BAE000BB9000BD0000BD0000C05000C0C000C0E000C10000C12000C28000C2A000C39,
   0x000C3D000C3D000C58000C5A000C5D000C5D000C60000C61000C80000C80000C85000C8C,
   0x000C8E000C90000C92000CA8000CAA000CB3000CB5000CB9000CBD000CBD000CDD000CDE,
   0x000CE0000CE1000CF1000CF2000D04000D0C000D0E000D10000D12000D3A000D3D000D3D,
   0x000D4E000D4E000D54000D56000D5F000D61000D7A000D7F000D85000D96000D9A000DB1,
   0x000DB3000DBB000DBD000DBD000DC0000DC6000E01000E30000E32000E33000E40000E46,
   0x000E81000E82000E84000E84000E86000E8A000E8C000EA3000EA5000EA5000EA7000EB0,
   0x000EB2000EB3000EBD000EBD000EC0000EC4000EC6000EC6000EDC000EDF000F00000F00,
   0x000F40000F47000F49000F6C000F88000F8C00100000102A00103F00103F001050001055,
   0x00105A00105D00106100106100106500106600106E00107000107500108100108E00108E,
   0x0010A00010C50010C70010C70010CD0010CD0010D00010FA0010FC00124800124A00124D,
   0x00125000125600125800125800125A00125D00126000128800128A00128D0012900012B0,
   0x0012B20012B50012B80012BE0012C00012C00012C20012C50012C80012D60012D8001310,
   0x00131200131500131800135A00138000138F0013A00013F50013F80013FD00140100166C,
   0x00166F00167F00168100169A0016A00016EA0016EE0016F800170000171100171F001731,
   0x00174000175100176000176C00176E0017700017800017B30017D70017D70017DC0017DC,
   0x0018200018780018800018A80018AA0018AA0018B00018F500190000191E00195000196D,
   0x0019700019740019800019AB0019B00019C9001A00001A16001A20001A54001AA7001AA7,
   0x001B05001B33001B45001B4C001B83001BA0001BAE001BAF001BBA001BE5001C00001C23,
   0x001C4D001C4F001C5A001C7D001C80001C8A001C90001CBA001CBD001CBF001CE9001CEC,
   0x001CEE001CF3001CF5001CF6001CFA001CFA001D00001DBF001E00001F15001F18001F1D,
   0x001F20001F45001F48001F4D001F50001F57001F59001F59001F5B001F5B001F5D001F5D,
   0x001F5F001F7D001F80001FB4001FB6001FBC001FBE001FBE001FC2001FC4001FC6001FCC,
   0x001FD0001FD3001FD6001FDB001FE0001FEC001FF2001FF4001FF6001FFC002071002071,
   0x00207F00207F00209000209C00210200210200210700210700210A002113002115002115,
   0x00211800211D00212400212400212600212600212800212800212A00213900213C00213F,
   0x00214500214900214E00214E002160002188002C00002CE4002CEB002CEE002CF2002CF3,
   0x002D00002D25002D27002D27002D2D002D2D002D30002D67002D6F002D6F002D80002D96,
   0x002DA0002DA6002DA8002DAE002DB0002DB6002DB8002DBE002DC0002DC6002DC8002DCE,
   0x002DD0002DD6002DD8002DDE00300500300700302100302900303100303500303800303C,
   0x00304100309600309B00309F0030A10030FA0030FC0030FF00310500312F00313100318E,
   0x0031A00031BF0031F00031FF003400004DBF004E0000A48C00A4D000A4FD00A50000A60C,
   0x00A61000A61F00A62A00A62B00A64000A66E00A67F00A69D00A6A000A6EF00A71700A71F,
   0x00A72200A78800A78B00A7CD00A7D000A7D100A7D300A7D300A7D500A7DC00A7F200A801,
   0x00A80300A80500A80700A80A00A80C00A82200A84000A87300A88200A8B300A8F200A8F7,
   0x00A8FB00A8FB00A8FD00A8FE00A90A00A92500A93000A94600A96000A97C00A98400A9B2,
   0x00A9CF00A9CF00A9E000A9E400A9E600A9EF00A9FA00A9FE00AA0000AA2800AA4000AA42,
   0x00AA4400AA4B00AA6000AA7600AA7A00AA7A00AA7E00AAAF00AAB100AAB100AAB500AAB6,
   0x00AAB900AABD00AAC000AAC000AAC200AAC200AADB00AADD00AAE000AAEA00AAF200AAF4,
   0x00AB0100AB0600AB0900AB0E00AB1100AB1600AB2000AB2600AB2800AB2E00AB3000AB5A,
   0x00AB5C00AB6900AB7000ABE200AC0000D7A300D7B000D7C600D7CB00D7FB00F90000FA6D,
   0x00FA7000FAD900FB0000FB0600FB1300FB1700FB1D00FB1D00FB1F00FB2800FB2A00FB36,
   0x00FB3800FB3C00FB3E00FB3E00FB4000FB4100FB4300FB4400FB4600FBB100FBD300FD3D,
   0x00FD5000FD8F00FD9200FDC700FDF000FDFB00FE7000FE7400FE7600FEFC00FF2100FF3A,
   0x00FF4100FF5A00FF6600FFBE00FFC200FFC700FFCA00FFCF00FFD200FFD700FFDA00FFDC,
   0x01000001000B01000D01002601002801003A01003C01003D01003F01004D01005001005D,
   0x0100800100FA01014001017401028001029C0102A00102D001030001031F01032D01034A,
   0x01035001037501038001039D0103A00103C30103C80103CF0103D10103D501040001049D,
   0x0104B00104D30104D80104FB01050001052701053001056301057001057A01057C01058A,
   0x01058C0105920105940105950105970105A10105A30105B10105B30105B90105BB0105BC,
   0x0105C00105F30106000107360107400107550107600107670107800107850107870107B0,
   0x0107B20107BA01080001080501080801080801080A01083501083701083801083C01083C,
   0x01083F01085501086001087601088001089E0108E00108F20108F40108F5010900010915,
   0x0109200109390109800109B70109BE0109BF010A00010A00010A10010A13010A15010A17,
   0x010A19010A35010A60010A7C010A80010A9C010AC0010AC7010AC9010AE4010B00010B35,
   0x010B40010B55010B60010B72010B80010B91010C00010C48010C80010CB2010CC0010CF2,
   0x010D00010D23010D4A010D65010D6F010D85010E80010EA9010EB0010EB1010EC2010EC4,
   0x010F00010F1C010F27010F27010F30010F45010F70010F81010FB0010FC4010FE0010FF6,
   0x0110030110370110710110720110750110750110830110AF0110D00110E8011103011126,
   0x0111440111440111470111470111500111720111760111760111830111B20111C10111C4,
   0x0111DA0111DA0111DC0111DC01120001121101121301122B01123F011240011280011286,
   0x01128801128801128A01128D01128F01129D01129F0112A80112B00112DE01130501130C,
   0x01130F01131001131301132801132A01133001133201133301133501133901133D01133D,
   0x01135001135001135D01136101138001138901138B01138B01138E01138E0113900113B5,
   0x0113B70113B70113D10113D10113D30113D301140001143401144701144A01145F011461,
   0x0114800114AF0114C40114C50114C70114C70115800115AE0115D80115DB01160001162F,
   0x0116440116440116800116AA0116B80116B801170001171A01174001174601180001182B,
   0x0118A00118DF0118FF01190601190901190901190C01191301191501191601191801192F,
   0x01193F01193F0119410119410119A00119A70119AA0119D00119E10119E10119E30119E3,
   0x011A00011A00011A0B011A32011A3A011A3A011A50011A50011A5C011A89011A9D011A9D,
   0x011AB0011AF8011BC0011BE0011C00011C08011C0A011C2E011C40011C40011C72011C8F,
   0x011D00011D06011D08011D09011D0B011D30011D46011D46011D60011D65011D67011D68,
   0x011D6A011D89011D98011D98011EE0011EF2011F02011F02011F04011F10011F12011F33,
   0x011FB0011FB001200001239901240001246E012480012543012F90012FF001300001342F,
   0x0134410134460134600143FA01440001464601610001611D016800016A38016A40016A5E,
   0x016A70016ABE016AD0016AED016B00016B2F016B40016B43016B63016B77016B7D016B8F,
   0x016D40016D6C016E40016E7F016F00016F4A016F50016F50016F93016F9F016FE0016FE1,
   0x016FE3016FE30170000187F7018800018CD5018CFF018D0801AFF001AFF301AFF501AFFB,
   0x01AFFD01AFFE01B00001B12201B13201B13201B15001B15201B15501B15501B16401B167,
   0x01B17001B2FB01BC0001BC6A01BC7001BC7C01BC8001BC8801BC9001BC9901D40001D454,
   0x01D45601D49C01D49E01D49F01D4A201D4A201D4A501D4A601D4A901D4AC01D4AE01D4B9,
   0x01D4BB01D4BB01D4BD01D4C301D4C501D50501D50701D50A01D50D01D51401D51601D51C,
   0x01D51E01D53901D53B01D53E01D54001D54401D54601D54601D54A01D55001D55201D6A5,
   0x01D6A801D6C001D6C201D6DA01D6DC01D6FA01D6FC01D71401D71601D73401D73601D74E,
   0x01D75001D76E01D77001D78801D78A01D7A801D7AA01D7C201D7C401D7CB01DF0001DF1E,
   0x01DF2501DF2A01E03001E06D01E10001E12C01E13701E13D01E14E01E14E01E29001E2AD,
   0x01E2C001E2EB01E4D001E4EB01E5D001E5ED01E5F001E5F001E7E001E7E601E7E801E7EB,
   0x01E7ED01E7EE01E7F001E7FE01E80001E8C401E90001E94301E94B01E94B01EE0001EE03,
   0x01EE0501EE1F01EE2101EE2201EE2401EE2401EE2701EE2701EE2901EE3201EE3401EE37,
   0x01EE3901EE3901EE3B01EE3B01EE4201EE4201EE4701EE4701EE4901EE4901EE4B01EE4B,
   0x01EE4D01EE4F01EE5101EE5201EE5401EE5401EE5701EE5701EE5901EE5901EE5B01EE5B,
   0x01EE5D01EE5D01EE5F01EE5F01EE6101EE6201EE6401EE6401EE6701EE6A01EE6C01EE72,
   0x01EE7401EE7701EE7901EE7C01EE7E01EE7E01EE8001EE8901EE8B01EE9B01EEA101EEA3,
   0x01EEA501EEA901EEAB01EEBB02000002A6DF02A70002B73902B74002B81D02B82002CEA1,
   0x02CEB002EBE002EBF002EE5D02F80002FA1D03000003134A0313500323AF]

def idContinue : PackedRanges :=
  [0x00003000003900004100005A00005F00005F00006100007A0000AA0000AA0000B50000B5,
   0x0000B70000B70000BA0000BA0000C00000D60000D80000F60000F80002C10002C60002D1,
   0x0002E00002E40002EC0002EC0002EE0002EE00030000037400037600037700037A00037D,
   0x00037F00037F00038600038A00038C00038C00038E0003A10003A30003F50003F7000481,
   0x00048300048700048A00052F0005310005560005590005590005600005880005910005BD,
   0x0005BF0005BF0005C10005C20005C40005C50005C70005C70005D00005EA0005EF0005F2,
   0x00061000061A00062000066900066E0006D30006D50006DC0006DF0006E80006EA0006FC,
   0x0006FF0006FF00071000074A00074D0007B10007C00007F50007FA0007FA0007FD0007FD,
   0x00080000082D00084000085B00086000086A00087000088700088900088E0008970008E1,
   0x0008E300096300096600096F00097100098300098500098C00098F0009900009930009A8,
   0x0009AA0009B00009B20009B20009B60009B90009BC0009C40009C70009C80009CB0009CE,
   0x0009D70009D70009DC0009DD0009DF0009E30009E60009F10009FC0009FC0009FE0009FE,
   0x000A01000A03000A05000A0A000A0F000A10000A13000A28000A2A000A30000A32000A33,
   0x000A35000A36000A38000A39000A3C000A3C000A3E000A42000A47000A48000A4B000A4D,
   0x000A51000A51000A59000A5C000A5E000A5E000A66000A75000A81000A83000A85000A8D,
   0x000A8F000A91000A93000AA8000AAA000AB0000AB2000AB3000AB5000AB9000ABC000AC5,
   0x000AC7000AC9000ACB000ACD000AD0000AD0000AE0000AE3000AE6000AEF000AF9000AFF,
   0x000B01000B03000B05000B0C000B0F000B10000B13000B28000B2A000B30000B32000B33,
   0x000B35000B39000B3C000B44000B47000B48000B4B000B4D000B55000B57000B5C000B5D,
   0x000B5F000B63000B66000B6F000B71000B71000B82000B83000B85000B8A000B8E000B90,
   0x000B92000B95000B99000B9A000B9C000B9C000B9E000B9F000BA3000BA4000BA8000BAA,
   0x000BAE000BB9000BBE000BC2000BC6000BC8000BCA000BCD000BD0000BD0000BD7000BD7,
   0x000BE6000BEF000C00000C0C000C0E000C10000C12000C28000C2A000C39000C3C000C44,
   0x000C46000C48000C4A000C4D000C55000C56000C58000C5A000C5D000C5D000C60000C63,
   0x000C66000C6F000C80000C83000C85000C8C000C8E000C90000C92000CA8000CAA000CB3,
   0x000CB5000CB9000CBC000CC4000CC6000CC8000CCA000CCD000CD5000CD6000CDD000CDE,
   0x000CE0000CE3000CE6000CEF000CF1000CF3000D00000D0C000D0E000D10000D12000D44,
   0x000D46000D48000D4A000D4E000D54000D57000D5F000D63000D66000D6F000D7A000D7F,
   0x000D81000D83000D85000D96000D9A000DB1000DB3000DBB000DBD000DBD000DC0000DC6,
   0x000DCA000DCA000DCF000DD4000DD6000DD6000DD8000DDF000DE6000DEF000DF2000DF3,
   0x000E01000E3A000E40000E4E000E50000E59000E81000E82000E84000E84000E86000E8A,
   0x000E8C000EA3000EA5000EA5000EA7000EBD000EC0000EC4000EC6000EC6000EC8000ECE,
   0x000ED0000ED9000EDC000EDF000F00000F00000F18000F19000F20000F29000F35000F35,
   0x000F37000F37000F39000F39000F3E000F47000F49000F6C000F71000F84000F86000F97,
   0x000F99000FBC000FC6000FC600100000104900105000109D0010A00010C50010C70010C7,
   0x0010CD0010CD0010D00010FA0010FC00124800124A00124D001250001256001258001258,
   0x00125A00125D00126000128800128A00128D0012900012B00012B20012B50012B80012BE,
   0x0012C00012C00012C20012C50012C80012D60012D800131000131200131500131800135A,
   0x00135D00135F00136900137100138000138F0013A00013F50013F80013FD00140100166C,
   0x00166F00167F00168100169A0016A00016EA0016EE0016F800170000171500171F001734,
   0x00174000175300176000176C00176E0017700017720017730017800017D30017D70017D7,
   0x0017DC0017DD0017E00017E900180B00180D00180F0018190018200018780018800018AA,
   0x0018B00018F500190000191E00192000192B00193000193B00194600196D001970001974,
   0x0019800019AB0019B00019C90019D00019DA001A00001A1B001A20001A5E001A60001A7C,
   0x001A7F001A89001A90001A99001AA7001AA7001AB0001ABD001ABF001ACE001B00001B4C,
   0x001B50001B59001B6B001B73001B80001BF3001C00001C37001C40001C49001C4D001C7D,
   0x001C80001C8A001C90001CBA001CBD001CBF001CD0001CD2001CD4001CFA001D00001F15,
   0x001F18001F1D001F20001F45001F48001F4D001F50001F57001F59001F59001F5B001F5B,
   0x001F5D001F5D001F5F001F7D001F80001FB4001FB6001FBC001FBE001FBE001FC2001FC4,
   0x001FC6001FCC001FD0001FD3001FD6001FDB001FE0001FEC001FF2001FF4001FF6001FFC,
   0x00200C00200D00203F00204000205400205400207100207100207F00207F00209000209C,
   0x0020D00020DC0020E10020E10020E50020F000210200210200210700210700210A002113,
   0x00211500211500211800211D00212400212400212600212600212800212800212A002139,
   0x00213C00213F00214500214900214E00214E002160002188002C00002CE4002CEB002CF3,
   0x002D00002D25002D27002D27002D2D002D2D002D30002D67002D6F002D6F002D7F002D96,
   0x002DA0002DA6002DA8002DAE002DB0002DB6002DB8002DBE002DC0002DC6002DC8002DCE,
   0x002DD0002DD6002DD8002DDE002DE0002DFF00300500300700302100302F003031003035,
   0x00303800303C00304100309600309900309F0030A10030FF00310500312F00313100318E,
   0x0031A00031BF0031F00031FF003400004DBF004E0000A48C00A4D000A4FD00A50000A60C,
   0x00A61000A62B00A64000A66F00A67400A67D00A67F00A6F100A71700A71F00A72200A788,
   0x00A78B00A7CD00A7D000A7D100A7D300A7D300A7D500A7DC00A7F200A82700A82C00A82C,
   0x00A84000A87300A88000A8C500A8D000A8D900A8E000A8F700A8FB00A8FB00A8FD00A92D,
   0x00A93000A95300A96000A97C00A98000A9C000A9CF00A9D900A9E000A9FE00AA0000AA36,
   0x00AA4000AA4D00AA5000AA5900AA6000AA7600AA7A00AAC200AADB00AADD00AAE000AAEF,
   0x00AAF200AAF600AB0100AB0600AB0900AB0E00AB1100AB1600AB2000AB2600AB2800AB2E,
   0x00AB3000AB5A00AB5C00AB6900AB7000ABEA00ABEC00ABED00ABF000ABF900AC0000D7A3,
   0x00D7B000D7C600D7CB00D7FB00F90000FA6D00FA7000FAD900FB0000FB0600FB1300FB17,
   0x00FB1D00FB2800FB2A00FB3600FB3800FB3C00FB3E00FB3E00FB4000FB4100FB4300FB44,
   0x00FB4600FBB100FBD300FD3D00FD5000FD8F00FD9200FDC700FDF000FDFB00FE0000FE0F,
   0x00FE2000FE2F00FE3300FE3400FE4D00FE4F00FE7000FE7400FE7600FEFC00FF1000FF19,
   0x00FF2100FF3A00FF3F00FF3F00FF4100FF5A00FF6500FFBE00FFC200FFC700FFCA00FFCF,
   0x00FFD200FFD700FFDA00FFDC01000001000B01000D01002601002801003A01003C01003D,
   0x01003F01004D01005001005D0100800100FA0101400101740101FD0101FD01028001029C,
   0x0102A00102D00102E00102E001030001031F01032D01034A01035001037A01038001039D,
   0x0103A00103C30103C80103CF0103D10103D501040001049D0104A00104A90104B00104D3,
   0x0104D80104FB01050001052701053001056301057001057A01057C01058A01058C010592,
   0x0105940105950105970105A10105A30105B10105B30105B90105BB0105BC0105C00105F3,
   0x0106000107360107400107550107600107670107800107850107870107B00107B20107BA,
   0x01080001080501080801080801080A01083501083701083801083C01083C01083F010855,
   0x01086001087601088001089E0108E00108F20108F40108F5010900010915010920010939,
   0x0109800109B70109BE0109BF010A00010A03010A05010A06010A0C010A13010A15010A17,
   0x010A19010A35010A38010A3A010A3F010A3F010A60010A7C010A80010A9C010AC0010AC7,
   0x010AC9010AE6010B00010B35010B40010B55010B60010B72010B80010B91010C00010C48,
   0x010C80010CB2010CC0010CF2010D00010D27010D30010D39010D40010D65010D69010D6D,
   0x010D6F010D85010E80010EA9010EAB010EAC010EB0010EB1010EC2010EC4010EFC010F1C,
   0x010F27010F27010F30010F50010F70010F85010FB0010FC4010FE0010FF6011000011046,
   0x01106601107501107F0110BA0110C20110C20110D00110E80110F00110F9011100011134,
   0x01113601113F0111440111470111500111730111760111760111800111C40111C90111CC,
   0x0111CE0111DA0111DC0111DC01120001121101121301123701123E011241011280011286,
   0x01128801128801128A01128D01128F01129D01129F0112A80112B00112EA0112F00112F9,
   0x01130001130301130501130C01130F01131001131301132801132A011330011332011333,
   0x01133501133901133B01134401134701134801134B01134D011350011350011357011357,
   0x01135D01136301136601136C01137001137401138001138901138B01138B01138E01138E,
   0x0113900113B50113B70113C00113C20113C20113C50113C50113C70113CA0113CC0113D3,
   0x0113E10113E201140001144A01145001145901145E0114610114800114C50114C70114C7,
   0x0114D00114D90115800115B50115B80115C00115D80115DD011600011640011644011644,
   0x0116500116590116800116B80116C00116C90116D00116E301170001171A01171D01172B,
   0x01173001173901174001174601180001183A0118A00118E90118FF011906011909011909,
   0x01190C01191301191501191601191801193501193701193801193B011943011950011959,
   0x0119A00119A70119AA0119D70119DA0119E10119E30119E4011A00011A3E011A47011A47,
   0x011A50011A99011A9D011A9D011AB0011AF8011BC0011BE0011BF0011BF9011C00011C08,
   0x011C0A011C36011C38011C40011C50011C59011C72011C8F011C92011CA7011CA9011CB6,
   0x011D00011D06011D08011D09011D0B011D36011D3A011D3A011D3C011D3D011D3F011D47,
   0x011D50011D59011D60011D65011D67011D68011D6A011D8E011D90011D91011D93011D98,
   0x011DA0011DA9011EE0011EF6011F00011F10011F12011F3A011F3E011F42011F50011F5A,
   0x011FB0011FB001200001239901240001246E012480012543012F90012FF001300001342F,
   0x0134400134550134600143FA014400014646016100016139016800016A38016A40016A5E,
   0x016A60016A69016A70016ABE016AC0016AC9016AD0016AED016AF0016AF4016B00016B36,
   0x016B40016B43016B50016B59016B63016B77016B7D016B8F016D40016D6C016D70016D79,
   0x016E40016E7F016F00016F4A016F4F016F87016F8F016F9F016FE0016FE1016FE3016FE4,
   0x016FF0016FF10170000187F7018800018CD5018CFF018D0801AFF001AFF301AFF501AFFB,
   0x01AFFD01AFFE01B00001B12201B13201B13201B15001B15201B15501B15501B16401B167,
   0x01B17001B2FB01BC0001BC6A01BC7001BC7C01BC8001BC8801BC9001BC9901BC9D01BC9E,
   0x01CCF001CCF901CF0001CF2D01CF3001CF4601D16501D16901D16D01D17201D17B01D182,
   0x01D18501D18B01D1AA01D1AD01D24201D24401D40001D45401D45601D49C01D49E01D49F,
   0x01D4A201D4A201D4A501D4A601D4A901D4AC01D4AE01D4B901D4BB01D4BB01D4BD01D4C3,
   0x01D4C501D50501D50701D50A01D50D01D51401D51601D51C01D51E01D53901D53B01D53E,
   0x01D54001D54401D54601D54601D54A01D55001D55201D6A501D6A801D6C001D6C201D6DA,
   0x01D6DC01D6FA01D6FC01D71401D71601D73401D73601D74E01D75001D76E01D77001D788,
   0x01D78A01D7A801D7AA01D7C201D7C401D7CB01D7CE01D7FF01DA0001DA3601DA3B01DA6C,
   0x01DA7501DA7501DA8401DA8401DA9B01DA9F01DAA101DAAF01DF0001DF1E01DF2501DF2A,
   0x01E00001E00601E00801E01801E01B01E02101E02301E02401E02601E02A01E03001E06D,
   0x01E08F01E08F01E10001E12C01E13001E13D01E14001E14901E14E01E14E01E29001E2AE,
   0x01E2C001E2F901E4D001E4F901E5D001E5FA01E7E001E7E601E7E801E7EB01E7ED01E7EE,
   0x01E7F001E7FE01E80001E8C401E8D001E8D601E90001E94B01E95001E95901EE0001EE03,
   0x01EE0501EE1F01EE2101EE2201EE2401EE2401EE2701EE2701EE2901EE3201EE3401EE37,
   0x01EE3901EE3901EE3B01EE3B01EE4201EE4201EE4701EE4701EE4901EE4901EE4B01EE4B,
   0x01EE4D01EE4F01EE5101EE5201EE5401EE5401EE5701EE5701EE5901EE5901EE5B01EE5B,
   0x01EE5D01EE5D01EE5F01EE5F01EE6101EE6201EE6401EE6401EE6701EE6A01EE6C01EE72,
   0x01EE7401EE7701EE7901EE7C01EE7E01EE7E01EE8001EE8901EE8B01EE9B01EEA101EEA3,
   0x01EEA501EEA901EEAB01EEBB01FBF001FBF902000002A6DF02A70002B73902B74002B81D,
   0x02B82002CEA102CEB002EBE002EBF002EE5D02F80002FA1D03000003134A0313500323AF,
   0x0E01000E01EF]

def xidStart : PackedRanges :=
  [0x00004100005A00006100007A0000AA0000AA0000B50000B50000BA0000BA0000C00000D6,
   0x0000D80000F60000F80002C10002C60002D10002E00002E40002EC0002EC0002EE0002EE,
   0x00037000037400037600037700037B00037D00037F00037F00038600038600038800038A,
   0x00038C00038C00038E0003A10003A30003F50003F700048100048A00052F000531000556,
   0x0005590005590005600005880005D00005EA0005EF0005F200062000064A00066E00066F,
   0x0006710006D30006D50006D50006E50006E60006EE0006EF0006FA0006FC0006FF0006FF,
   0x00071000071000071200072F00074D0007A50007B10007B10007CA0007EA0007F40007F5,
   0x0007FA0007FA00080000081500081A00081A000824000824000828000828000840000858,
   0x00086000086A00087000088700088900088E0008A00008C900090400093900093D00093D,
   0x00095000095000095800096100097100098000098500098C00098F0009900009930009A8,
   0x0009AA0009B00009B20009B20009B60009B90009BD0009BD0009CE0009CE0009DC0009DD,
   0x0009DF0009E10009F00009F10009FC0009FC000A05000A0A000A0F000A10000A13000A28,
   0x000A2A000A30000A32000A33000A35000A36000A38000A39000A59000A5C000A5E000A5E,
   0x000A72000A74000A85000A8D000A8F000A91000A93000AA8000AAA000AB0000AB2000AB3,
   0x000AB5000AB9000ABD000ABD000AD0000AD0000AE0000AE1000AF9000AF9000B05000B0C,
   0x000B0F000B10000B13000B28000B2A000B30000B32000B33000B35000B39000B3D000B3D,
   0x000B5C000B5D000B5F000B61000B71000B71000B83000B83000B85000B8A000B8E000B90,
   0x000B92000B95000B99000B9A000B9C000B9C000B9E000B9F000BA3000BA4000BA8000BAA,
   0x000BAE000BB9000BD0000BD0000C05000C0C000C0E000C10000C12000C28000C2A000C39,
   0x000C3D000C3D000C58000C5A000C5D000C5D000C60000C61000C80000C80000C85000C8C,
   0x000C8E000C90000C92000CA8000CAA000CB3000CB5000CB9000CBD000CBD000CDD000CDE,
   0x000CE0000CE1000CF1000CF2000D04000D0C000D0E000D10000D12000D3A000D3D000D3D,
   0x000D4E000D4E000D54000D56000D5F000D61000D7A000D7F000D85000D96000D9A000DB1,
   0x000DB3000DBB000DBD000DBD000DC0000DC6000E01000E30000E32000E32000E40000E46,
   0x000E81000E82000E84000E84000E86000E8A000E8C000EA3000EA5000EA5000EA7000EB0,
   0x000EB2000EB2000EBD000EBD000EC0000EC4000EC6000EC6000EDC000EDF000F00000F00,
   0x000F40000F47000F49000F6C000F88000F8C00100000102A00103F00103F001050001055,
   0x00105A00105D00106100106100106500106600106E00107000107500108100108E00108E,
   0x0010A00010C50010C70010C70010CD0010CD0010D00010FA0010FC00124800124A00124D,
   0x00125000125600125800125800125A00125D00126000128800128A00128D0012900012B0,
   0x0012B20012B50012B80012BE0012C00012C00012C20012C50012C80012D60012D8001310,
   0x00131200131500131800135A00138000138F0013A00013F50013F80013FD00140100166C,
   0x00166F00167F00168100169A0016A00016EA0016EE0016F800170000171100171F001731,
   0x00174000175100176000176C00176E0017700017800017B30017D70017D70017DC0017DC,
   0x0018200018780018800018A80018AA0018AA0018B00018F500190000191E00195000196D,
   0x0019700019740019800019AB0019B00019C9001A00001A16001A20001A54001AA7001AA7,
   0x001B05001B33001B45001B4C001B83001BA0001BAE001BAF001BBA001BE5001C00001C23,
   0x001C4D001C4F001C5A001C7D001C80001C8A001C90001CBA001CBD001CBF001CE9001CEC,
   0x001CEE001CF3001CF5001CF6001CFA001CFA001D00001DBF001E00001F15001F18001F1D,
   0x001F20001F45001F48001F4D001F50001F57001F59001F59001F5B001F5B001F5D001F5D,
   0x001F5F001F7D001F80001FB4001FB6001FBC001FBE001FBE001FC2001FC4001FC6001FCC,
   0x001FD0001FD3001FD6001FDB001FE0001FEC001FF2001FF4001FF6001FFC002071002071,
   0x00207F00207F00209000209C00210200210200210700210700210A002113002115002115,
   0x00211800211D00212400212400212600212600212800212800212A00213900213C00213F,
   0x00214500214900214E00214E002160002188002C00002CE4002CEB002CEE002CF2002CF3,
   0x002D00002D25002D27002D27002D2D002D2D002D30002D67002D6F002D6F002D80002D96,
   0x002DA0002DA6002DA8002DAE002DB0002DB6002DB8002DBE002DC0002DC6002DC8002DCE,
   0x002DD0002DD6002DD8002DDE00300500300700302100302900303100303500303800303C,
   0x00304100309600309D00309F0030A10030FA0030FC0030FF00310500312F00313100318E,
   0x0031A00031BF0031F00031FF003400004DBF004E0000A48C00A4D000A4FD00A50000A60C,
   0x00A61000A61F00A62A00A62B00A64000A66E00A67F00A69D00A6A000A6EF00A71700A71F,
   0x00A72200A78800A78B00A7CD00A7D000A7D100A7D300A7D300A7D500A7DC00A7F200A801,
   0x00A80300A80500A80700A80A00A80C00A82200A84000A87300A88200A8B300A8F200A8F7,
   0x00A8FB00A8FB00A8FD00A8FE00A90A00A92500A93000A94600A96000A97C00A98400A9B2,
   0x00A9CF00A9CF00A9E000A9E400A9E600A9EF00A9FA00A9FE00AA0000AA2800AA4000AA42,
   0x00AA4400AA4B00AA6000AA7600AA7A00AA7A00AA7E00AAAF00AAB100AAB100AAB500AAB6,
   0x00AAB900AABD00AAC000AAC000AAC200AAC200AADB00AADD00AAE000AAEA00AAF200AAF4,
   0x00AB0100AB0600AB0900AB0E00AB1100AB1600AB2000AB2600AB2800AB2E00AB3000AB5A,
   0x00AB5C00AB6900AB7000ABE200AC0000D7A300D7B000D7C600D7CB00D7FB00F90000FA6D,
   0x00FA7000FAD900FB0000FB0600FB1300FB1700FB1D00FB1D00FB1F00FB2800FB2A00FB36,
   0x00FB3800FB3C00FB3E00FB3E00FB4000FB4100FB4300FB4400FB4600FBB100FBD300FC5D,
   0x00FC6400FD3D00FD5000FD8F00FD9200FDC700FDF000FDF900FE7100FE7100FE7300FE73,
   0x00FE7700FE7700FE7900FE7900FE7B00FE7B00FE7D00FE7D00FE7F00FEFC00FF2100FF3A,
   0x00FF4100FF5A00FF6600FF9D00FFA000FFBE00FFC200FFC700FFCA00FFCF00FFD200FFD7,
   0x00FFDA00FFDC01000001000B01000D01002601002801003A01003C01003D01003F01004D,
   0x01005001005D0100800100FA01014001017401028001029C0102A00102D001030001031F,
   0x01032D01034A01035001037501038001039D0103A00103C30103C80103CF0103D10103D5,
   0x01040001049D0104B00104D30104D80104FB01050001052701053001056301057001057A,
   0x01057C01058A01058C0105920105940105950105970105A10105A30105B10105B30105B9,
   0x0105BB0105BC0105C00105F3010600010736010740010755010760010767010780010785,
   0x0107870107B00107B20107BA01080001080501080801080801080A010835010837010838,
   0x01083C01083C01083F01085501086001087601088001089E0108E00108F20108F40108F5,
   0x0109000109150109200109390109800109B70109BE0109BF010A00010A00010A10010A13,
   0x010A15010A17010A19010A35010A60010A7C010A80010A9C010AC0010AC7010AC9010AE4,
   0x010B00010B35010B40010B55010B60010B72010B80010B91010C00010C48010C80010CB2,
   0x010CC0010CF2010D00010D23010D4A010D65010D6F010D85010E80010EA9010EB0010EB1,
   0x010EC2010EC4010F00010F1C010F27010F27010F30010F45010F70010F81010FB0010FC4,
   0x010FE0010FF60110030110370110710110720110750110750110830110AF0110D00110E8,
   0x0111030111260111440111440111470111470111500111720111760111760111830111B2,
   0x0111C10111C40111DA0111DA0111DC0111DC01120001121101121301122B01123F011240,
   0x01128001128601128801128801128A01128D01128F01129D01129F0112A80112B00112DE,
   0x01130501130C01130F01131001131301132801132A011330011332011333011335011339,
   0x01133D01133D01135001135001135D01136101138001138901138B01138B01138E01138E,
   0x0113900113B50113B70113B70113D10113D10113D30113D301140001143401144701144A,
   0x01145F0114610114800114AF0114C40114C50114C70114C70115800115AE0115D80115DB,
   0x01160001162F0116440116440116800116AA0116B80116B801170001171A011740011746,
   0x01180001182B0118A00118DF0118FF01190601190901190901190C011913011915011916,
   0x01191801192F01193F01193F0119410119410119A00119A70119AA0119D00119E10119E1,
   0x0119E30119E3011A00011A00011A0B011A32011A3A011A3A011A50011A50011A5C011A89,
   0x011A9D011A9D011AB0011AF8011BC0011BE0011C00011C08011C0A011C2E011C40011C40,
   0x011C72011C8F011D00011D06011D08011D09011D0B011D30011D46011D46011D60011D65,
   0x011D67011D68011D6A011D89011D98011D98011EE0011EF2011F02011F02011F04011F10,
   0x011F12011F33011FB0011FB001200001239901240001246E012480012543012F90012FF0,
   0x01300001342F0134410134460134600143FA01440001464601610001611D016800016A38,
   0x016A40016A5E016A70016ABE016AD0016AED016B00016B2F016B40016B43016B63016B77,
   0x016B7D016B8F016D40016D6C016E40016E7F016F00016F4A016F50016F50016F93016F9F,
   0x016FE0016FE1016FE3016FE30170000187F7018800018CD5018CFF018D0801AFF001AFF3,
   0x01AFF501AFFB01AFFD01AFFE01B00001B12201B13201B13201B15001B15201B15501B155,
   0x01B16401B16701B17001B2FB01BC0001BC6A01BC7001BC7C01BC8001BC8801BC9001BC99,
   0x01D40001D45401D45601D49C01D49E01D49F01D4A201D4A201D4A501D4A601D4A901D4AC,
   0x01D4AE01D4B901D4BB01D4BB01D4BD01D4C301D4C501D50501D50701D50A01D50D01D514,
   0x01D51601D51C01D51E01D53901D53B01D53E01D54001D54401D54601D54601D54A01D550,
   0x01D55201D6A501D6A801D6C001D6C201D6DA01D6DC01D6FA01D6FC01D71401D71601D734,
   0x01D73601D74E01D75001D76E01D77001D78801D78A01D7A801D7AA01D7C201D7C401D7CB,
   0x01DF0001DF1E01DF2501DF2A01E03001E06D01E10001E12C01E13701E13D01E14E01E14E,
   0x01E29001E2AD01E2C001E2EB01E4D001E4EB01E5D001E5ED01E5F001E5F001E7E001E7E6,
   0x01E7E801E7EB01E7ED01E7EE01E7F001E7FE01E80001E8C401E90001E94301E94B01E94B,
   0x01EE0001EE0301EE0501EE1F01EE2101EE2201EE2401EE2401EE2701EE2701EE2901EE32,
   0x01EE3401EE3701EE3901EE3901EE3B01EE3B01EE4201EE4201EE4701EE4701EE4901EE49,
   0x01EE4B01EE4B01EE4D01EE4F01EE5101EE5201EE5401EE5401EE5701EE5701EE5901EE59,
   0x01EE5B01EE5B01EE5D01EE5D01EE5F01EE5F01EE6101EE6201EE6401EE6401EE6701EE6A,
   0x01EE6C01EE7201EE7401EE7701EE7901EE7C01EE7E01EE7E01EE8001EE8901EE8B01EE9B,
   0x01EEA101EEA301EEA501EEA901EEAB01EEBB02000002A6DF02A70002B73902B74002B81D,
   0x02B82002CEA102CEB002EBE002EBF002EE5D02F80002FA1D03000003134A0313500323AF]

def xidContinue : PackedRanges :=
  [0x00003000003900004100005A00005F00005F00006100007A0000AA0000AA0000B50000B5,
   0x0000B70000B70000BA0000BA0000C00000D60000D80000F60000F80002C10002C60002D1,
   0x0002E00002E40002EC0002EC0002EE0002EE00030000037400037600037700037B00037D,
   0x00037F00037F00038600038A00038C00038C00038E0003A10003A30003F50003F7000481,
   0x00048300048700048A00052F0005310005560005590005590005600005880005910005BD,
   0x0005BF0005BF0005C10005C20005C40005C50005C70005C70005D00005EA0005EF0005F2,
   0x00061000061A00062000066900066E0006D30006D50006DC0006DF0006E80006EA0006FC,
   0x0006FF0006FF00071000074A00074D0007B10007C00007F50007FA0007FA0007FD0007FD,
   0x00080000082D00084000085B00086000086A00087000088700088900088E0008970008E1,
   0x0008E300096300096600096F00097100098300098500098C00098F0009900009930009A8,
   0x0009AA0009B00009B20009B20009B60009B90009BC0009C40009C70009C80009CB0009CE,
   0x0009D70009D70009DC0009DD0009DF0009E30009E60009F10009FC0009FC0009FE0009FE,
   0x000A01000A03000A05000A0A000A0F000A10000A13000A28000A2A000A30000A32000A33,
   0x000A35000A36000A38000A39000A3C000A3C000A3E000A42000A47000A48000A4B000A4D,
   0x000A51000A51000A59000A5C000A5E000A5E000A66000A75000A81000A83000A85000A8D,
   0x000A8F000A91000A93000AA8000AAA000AB0000AB2000AB3000AB5000AB9000ABC000AC5,
   0x000AC7000AC9000ACB000ACD000AD0000AD0000AE0000AE3000AE6000AEF000AF9000AFF,
   0x000B01000B03000B05000B0C000B0F000B10000B13000B28000B2A000B30000B32000B33,
   0x000B35000B39000B3C000B44000B47000B48000B4B000B4D000B55000B57000B5C000B5D,
   0x000B5F000B63000B66000B6F000B71000B71000B82000B83000B85000B8A000B8E000B90,
   0x000B92000B95000B99000B9A000B9C000B9C000B9E000B9F000BA3000BA4000BA8000BAA,
   0x000BAE000BB9000BBE000BC2000BC6000BC8000BCA000BCD000BD0000BD0000BD7000BD7,
   0x000BE6000BEF000C00000C0C000C0E000C10000C12000C28000C2A000C39000C3C000C44,
   0x000C46000C48000C4A000C4D000C55000C56000C58000C5A000C5D000C5D000C60000C63,
   0x000C66000C6F000C80000C83000C85000C8C000C8E000C90000C92000CA8000CAA000CB3,
   0x000CB5000CB9000CBC000CC4000CC6000CC8000CCA000CCD000CD5000CD6000CDD000CDE,
   0x000CE0000CE3000CE6000CEF000CF1000CF3000D00000D0C000D0E000D10000D12000D44,
   0x000D46000D48000D4A000D4E000D54000D57000D5F000D63000D66000D6F000D7A000D7F,
   0x000D81000D83000D85000D96000D9A000DB1000DB3000DBB000DBD000DBD000DC0000DC6,
   0x000DCA000DCA000DCF000DD4000DD6000DD6000DD8000DDF000DE6000DEF000DF2000DF3,
   0x000E01000E3A000E40000E4E000E50000E59000E81000E82000E84000E84000E86000E8A,
   0x000E8C000EA3000EA5000EA5000EA7000EBD000EC0000EC4000EC6000EC6000EC8000ECE,
   0x000ED0000ED9000EDC000EDF000F00000F00000F18000F19000F20000F29000F35000F35,
   0x000F37000F37000F39000F39000F3E000F47000F49000F6C000F71000F84000F86000F97,
   0x000F99000FBC000FC6000FC600100000104900105000109D0010A00010C50010C70010C7,
   0x0010CD0010CD0010D00010FA0010FC00124800124A00124D001250001256001258001258,
   0x00125A00125D00126000128800128A00128D0012900012B00012B20012B50012B80012BE,
   0x0012C00012C00012C20012C50012C80012D60012D800131000131200131500131800135A,
   0x00135D00135F00136900137100138000138F0013A00013F50013F80013FD00140100166C,
   0x00166F00167F00168100169A0016A00016EA0016EE0016F800170000171500171F001734,
   0x00174000175300176000176C00176E0017700017720017730017800017D30017D70017D7,
   0x0017DC0017DD0017E00017E900180B00180D00180F0018190018200018780018800018AA,
   0x0018B00018F500190000191E00192000192B00193000193B00194600196D001970001974,
   0x0019800019AB0019B00019C90019D00019DA001A00001A1B001A20001A5E001A60001A7C,
   0x001A7F001A89001A90001A99001AA7001AA7001AB0001ABD001ABF001ACE001B00001B4C,
   0x001B50001B59001B6B001B73001B80001BF3001C00001C37001C40001C49001C4D001C7D,
   0x001C80001C8A001C90001CBA001CBD001CBF001CD0001CD2001CD4001CFA001D00001F15,
   0x001F18001F1D001F20001F45001F48001F4D001F50001F57001F59001F59001F5B001F5B,
   0x001F5D001F5D001F5F001F7D001F80001FB4001FB6001FBC001FBE001FBE001FC2001FC4,
   0x001FC6001FCC001FD0001FD3001FD6001FDB001FE0001FEC001FF2001FF4001FF6001FFC,
   0x00200C00200D00203F00204000205400205400207100207100207F00207F00209000209C,
   0x0020D00020DC0020E10020E10020E50020F000210200210200210700210700210A002113,
   0x00211500211500211800211D00212400212400212600212600212800212800212A002139,
   0x00213C00213F00214500214900214E00214E002160002188002C00002CE4002CEB002CF3,
   0x002D00002D25002D27002D27002D2D002D2D002D30002D67002D6F002D6F002D7F002D96,
   0x002DA0002DA6002DA8002DAE002DB0002DB6002DB8002DBE002DC0002DC6002DC8002DCE,
   0x002DD0002DD6002DD8002DDE002DE0002DFF00300500300700302100302F003031003035,
   0x00303800303C00304100309600309900309A00309D00309F0030A10030FF00310500312F,
   0x00313100318E0031A00031BF0031F00031FF003400004DBF004E0000A48C00A4D000A4FD,
   0x00A50000A60C00A61000A62B00A64000A66F00A67400A67D00A67F00A6F100A71700A71F,
   0x00A72200A78800A78B00A7CD00A7D000A7D100A7D300A7D300A7D500A7DC00A7F200A827,
   0x00A82C00A82C00A84000A87300A88000A8C500A8D000A8D900A8E000A8F700A8FB00A8FB,
   0x00A8FD00A92D00A93000A95300A96000A97C00A98000A9C000A9CF00A9D900A9E000A9FE,
   0x00AA0000AA3600AA4000AA4D00AA5000AA5900AA6000AA7600AA7A00AAC200AADB00AADD,
   0x00AAE000AAEF00AAF200AAF600AB0100AB0600AB0900AB0E00AB1100AB1600AB2000AB26,
   0x00AB2800AB2E00AB3000AB5A00AB5C00AB6900AB7000ABEA00ABEC00ABED00ABF000ABF9,
   0x00AC0000D7A300D7B000D7C600D7CB00D7FB00F90000FA6D00FA7000FAD900FB0000FB06,
   0x00FB1300FB1700FB1D00FB2800FB2A00FB3600FB3800FB3C00FB3E00FB3E00FB4000FB41,
   0x00FB4300FB4400FB4600FBB100FBD300FC5D00FC6400FD3D00FD5000FD8F00FD9200FDC7,
   0x00FDF000FDF900FE0000FE0F00FE2000FE2F00FE3300FE3400FE4D00FE4F00FE7100FE71,
   0x00FE7300FE7300FE7700FE7700FE7900FE7900FE7B00FE7B00FE7D00FE7D00FE7F00FEFC,
   0x00FF1000FF1900FF2100FF3A00FF3F00FF3F00FF4100FF5A00FF6500FFBE00FFC200FFC7,
   0x00FFCA00FFCF00FFD200FFD700FFDA00FFDC01000001000B01000D01002601002801003A,
   0x01003C01003D01003F01004D01005001005D0100800100FA0101400101740101FD0101FD,
   0x01028001029C0102A00102D00102E00102E001030001031F01032D01034A01035001037A,
   0x01038001039D0103A00103C30103C80103CF0103D10103D501040001049D0104A00104A9,
   0x0104B00104D30104D80104FB01050001052701053001056301057001057A01057C01058A,
   0x01058C0105920105940105950105970105A10105A30105B10105B30105B90105BB0105BC,
   0x0105C00105F30106000107360107400107550107600107670107800107850107870107B0,
   0x0107B20107BA01080001080501080801080801080A01083501083701083801083C01083C,
   0x01083F01085501086001087601088001089E0108E00108F20108F40108F5010900010915,
   0x0109200109390109800109B70109BE0109BF010A00010A03010A05010A06010A0C010A13,
   0x010A15010A17010A19010A35010A38010A3A010A3F010A3F010A60010A7C010A80010A9C,
   0x010AC0010AC7010AC9010AE6010B00010B35010B40010B55010B60010B72010B80010B91,
   0x010C00010C48010C80010CB2010CC0010CF2010D00010D27010D30010D39010D40010D65,
   0x010D69010D6D010D6F010D85010E80010EA9010EAB010EAC010EB0010EB1010EC2010EC4,
   0x010EFC010F1C010F27010F27010F30010F50010F70010F85010FB0010FC4010FE0010FF6,
   0x01100001104601106601107501107F0110BA0110C20110C20110D00110E80110F00110F9,
   0x01110001113401113601113F0111440111470111500111730111760111760111800111C4,
   0x0111C90111CC0111CE0111DA0111DC0111DC01120001121101121301123701123E011241,
   0x01128001128601128801128801128A01128D01128F01129D01129F0112A80112B00112EA,
   0x0112F00112F901130001130301130501130C01130F01131001131301132801132A011330,
   0x01133201133301133501133901133B01134401134701134801134B01134D011350011350,
   0x01135701135701135D01136301136601136C01137001137401138001138901138B01138B,
   0x01138E01138E0113900113B50113B70113C00113C20113C20113C50113C50113C70113CA,
   0x0113CC0113D30113E10113E201140001144A01145001145901145E0114610114800114C5,
   0x0114C70114C70114D00114D90115800115B50115B80115C00115D80115DD011600011640,
   0x0116440116440116500116590116800116B80116C00116C90116D00116E301170001171A,
   0x01171D01172B01173001173901174001174601180001183A0118A00118E90118FF011906,
   0x01190901190901190C01191301191501191601191801193501193701193801193B011943,
   0x0119500119590119A00119A70119AA0119D70119DA0119E10119E30119E4011A00011A3E,
   0x011A47011A47011A50011A99011A9D011A9D011AB0011AF8011BC0011BE0011BF0011BF9,
   0x011C00011C08011C0A011C36011C38011C40011C50011C59011C72011C8F011C92011CA7,
   0x011CA9011CB6011D00011D06011D08011D09011D0B011D36011D3A011D3A011D3C011D3D,
   0x011D3F011D47011D50011D59011D60011D65011D67011D68011D6A011D8E011D90011D91,
   0x011D93011D98011DA0011DA9011EE0011EF6011F00011F10011F12011F3A011F3E011F42,
   0x011F50011F5A011FB0011FB001200001239901240001246E012480012543012F90012FF0,
   0x01300001342F0134400134550134600143FA014400014646016100016139016800016A38,
   0x016A40016A5E016A60016A69016A70016ABE016AC0016AC9016AD0016AED016AF0016AF4,
   0x016B00016B36016B40016B43016B50016B59016B63016B77016B7D016B8F016D40016D6C,
   0x016D70016D79016E40016E7F016F00016F4A016F4F016F87016F8F016F9F016FE0016FE1,
   0x016FE3016FE4016FF0016FF10170000187F7018800018CD5018CFF018D0801AFF001AFF3,
   0x01AFF501AFFB01AFFD01AFFE01B00001B12201B13201B13201B15001B15201B15501B155,
   0x01B16401B16701B17001B2FB01BC0001BC6A01BC7001BC7C01BC8001BC8801BC9001BC99,
   0x01BC9D01BC9E01CCF001CCF901CF0001CF2D01CF3001CF4601D16501D16901D16D01D172,
   0x01D17B01D18201D18501D18B01D1AA01D1AD01D24201D24401D40001D45401D45601D49C,
   0x01D49E01D49F01D4A201D4A201D4A501D4A601D4A901D4AC01D4AE01D4B901D4BB01D4BB,
   0x01D4BD01D4C301D4C501D50501D50701D50A01D50D01D51401D51601D51C01D51E01D539,
   0x01D53B01D53E01D54001D54401D54601D54601D54A01D55001D55201D6A501D6A801D6C0,
   0x01D6C201D6DA01D6DC01D6FA01D6FC01D71401D71601D73401D73601D74E01D75001D76E,
   0x01D77001D78801D78A01D7A801D7AA01D7C201D7C401D7CB01D7CE01D7FF01DA0001DA36,
   0x01DA3B01DA6C01DA7501DA7501DA8401DA8401DA9B01DA9F01DAA101DAAF01DF0001DF1E,
   0x01DF2501DF2A01E00001E00601E00801E01801E01B01E02101E02301E02401E02601E02A,
   0x01E03001E06D01E08F01E08F01E10001E12C01E13001E13D01E14001E14901E14E01E14E,
   0x01E29001E2AE01E2C001E2F901E4D001E4F901E5D001E5FA01E7E001E7E601E7E801E7EB,
   0x01E7ED01E7EE01E7F001E7FE01E80001E8C401E8D001E8D601E90001E94B01E95001E959,
   0x01EE0001EE0301EE0501EE1F01EE2101EE2201EE2401EE2401EE2701EE2701EE2901EE32,
   0x01EE3401EE3701EE3901EE3901EE3B01EE3B01EE4201EE4201EE4701EE4701EE4901EE49,
   0x01EE4B01EE4B01EE4D01EE4F01EE5101EE5201EE5401EE5401EE5701EE5701EE5901EE59,
   0x01EE5B01EE5B01EE5D01EE5D01EE5F01EE5F01EE6101EE6201EE6401EE6401EE6701EE6A,
   0x01EE6C01EE7201EE7401EE7701EE7901EE7C01EE7E01EE7E01EE8001EE8901EE8B01EE9B,
   0x01EEA101EEA301EEA501EEA901EEAB01EEBB01FBF001FBF902000002A6DF02A70002B739,
   0x02B74002B81D02B82002CEA102CEB002EBE002EBF002EE5D02F80002FA1D03000003134A,
   0x0313500323AF0E01000E01EF]

def idCompatMathStart : PackedRanges :=
  [0x00220200220200220700220700221E00221E01D6C101D6C101D6DB01D6DB01D6FB01D6FB,
   0x01D71501D71501D73501D73501D74F01D74F01D76F01D76F01D78901D78901D7A901D7A9,
   0x01D7C301D7C3]

def idCompatMathContinue : PackedRanges :=
  [0x0000B20000B30000B90000B900207000207000207400207E00208000208E002202002202,
   0x00220700220700221E00221E01D6C101D6C101D6DB01D6DB01D6FB01D6FB01D71501D715,
   0x01D73501D73501D74F01D74F01D76F01D76F01D78901D78901D7A901D7A901D7C301D7C3]

def patternSyntax : PackedRanges :=
  [0x00002100002F00003A00004000005B00005E00006000006000007B00007E0000A10000A7,
   0x0000A90000A90000AB0000AC0000AE0000AE0000B00000B10000B60000B60000BB0000BB,
   0x0000BF0000BF0000D70000D70000F70000F700201000202700203000203E002041002053,
   0x00205500205E00219000245F002500002775002794002BFF002E00002E7F003001003003,
   0x00300800302000303000303000FD3E00FD3F00FE4500FE46]

def patternWhiteSpace : PackedRanges :=
  [0x00000900000D00002000002000008500008500200E00200F002028002029]

/-- The tables of this module under the loosely matched names of their properties. -/
def byName : List (List String × PackedRanges) := [
  (["ids", "idstart"], idStart),
  (["idc", "idcontinue"], idContinue),
  (["xids", "xidstart"], xidStart),
  (["xidc", "xidcontinue"], xidContinue),
  (["idcompatmathstart"], idCompatMathStart),
  (["idcompatmathcontinue"], idCompatMathContinue),
  (["patsyn", "patternsyntax"], patternSyntax),
  (["patws", "patternwhitespace"], patternWhiteSpace)]

end Identifiers

end Unicode

end Scopelight
