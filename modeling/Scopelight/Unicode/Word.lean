import Scopelight.Unicode.Ranges

/-!
# Word characters

The characters that count as part of a word: alphabetic ones, marks, decimal digits,
connector punctuation and joiners.
-/

namespace Scopelight

namespace Unicode

def wordCharacters : PackedRanges :=
  [0x00003000003900004100005A00005F00005F00006100007A0000AA0000AA0000B50000B5,
   0x0000BA0000BA0000C00000D60000D80000F60000F80002C10002C60002D10002E00002E4,
   0x0002EC0002EC0002EE0002EE00030000037400037600037700037A00037D00037F00037F,
   0x00038600038600038800038A00038C00038C00038E0003A10003A30003F50003F7000481,
   0x00048300052F0005310005560005590005590005600005880005910005BD0005BF0005BF,
   0x0005C10005C20005C40005C50005C70005C70005D00005EA0005EF0005F200061000061A,
   0x00062000066900066E0006D30006D50006DC0006DF0006E80006EA0006FC0006FF0006FF,
   0x00071000074A00074D0007B10007C00007F50007FA0007FA0007FD0007FD00080000082D,
   0x00084000085B00086000086A00087000088700088900088E0008970008E10008E3000963,
   0x00096600096F00097100098300098500098C00098F0009900009930009A80009AA0009B0,
   0x0009B20009B20009B60009B90009BC0009C40009C70009C80009CB0009CE0009D70009D7,
   0x0009DC0009DD0009DF0009E30009E60009F10009FC0009FC0009FE0009FE000A01000A03,
   0x000A05000A0A000A0F000A10000A13000A28000A2A000A30000A32000A33000A35000A36,
   0x000A38000A39000A3C000A3C000A3E000A42000A47000A48000A4B000A4D000A51000A51,
   0x000A59000A5C000A5E000A5E000A66000A75000A81000A83000A85000A8D000A8F000A91,
   0x000A93000AA8000AAA000AB0000AB2000AB3000AB5000AB9000ABC000AC5000AC7000AC9,
   0x000ACB000ACD000AD0000AD0000AE0000AE3000AE6000AEF000AF9000AFF000B01000B03,
   0x000B05000B0C000B0F000B10000B13000B28000B2A000B30000B32000B33000B35000B39,
   0x000B3C000B44000B47000B48000B4B000B4D000B55000B57000B5C000B5D000B5F000B63,
   0x000B66000B6F000B71000B71000B82000B83000B85000B8A000B8E000B90000B92000B95,
   0x000B99000B9A000B9C000B9C000B9E000B9F000BA3000BA4000BA8000BAA000BAE000BB9,
   0x000BBE000BC2000BC6000BC8000BCA000BCD000BD0000BD0000BD7000BD7000BE6000BEF,
   0x000C00000C0C000C0E000C10000C12000C28000C2A000C39000C3C000C44000C46000C48,
   0x000C4A000C4D000C55000C56000C58000C5A000C5D000C5D000C60000C63000C66000C6F,
   0x000C80000C83000C85000C8C000C8E000C90000C92000CA8000CAA000CB3000CB5000CB9,
   0x000CBC000CC4000CC6000CC8000CCA000CCD000CD5000CD6000CDD000CDE000CE0000CE3,
   0x000CE6000CEF000CF1000CF3000D00000D0C000D0E000D10000D12000D44000D46000D48,
   0x000D4A000D4E000D54000D57000D5F000D63000D66000D6F000D7A000D7F000D81000D83,
   0x000D85000D96000D9A000DB1000DB3000DBB000DBD000DBD000DC0000DC6000DCA000DCA,
   0x000DCF000DD4000DD6000DD6000DD8000DDF000DE6000DEF000DF2000DF3000E01000E3A,
   0x000E40000E4E000E50000E59000E81000E82000E84000E84000E86000E8A000E8C000EA3,
   0x000EA5000EA5000EA7000EBD000EC0000EC4000EC6000EC6000EC8000ECE000ED0000ED9,
   0x000EDC000EDF000F00000F00000F18000F19000F20000F29000F35000F35000F37000F37,
   0x000F39000F39000F3E000F47000F49000F6C000F71000F84000F86000F97000F99000FBC,
   0x000FC6000FC600100000104900105000109D0010A00010C50010C70010C70010CD0010CD,
   0x0010D00010FA0010FC00124800124A00124D00125000125600125800125800125A00125D,
   0x00126000128800128A00128D0012900012B00012B20012B50012B80012BE0012C00012C0,
   0x0012C20012C50012C80012D60012D800131000131200131500131800135A00135D00135F,
   0x00138000138F0013A00013F50013F80013FD00140100166C00166F00167F00168100169A,
   0x0016A00016EA0016EE0016F800170000171500171F00173400174000175300176000176C,
   0x00176E0017700017720017730017800017D30017D70017D70017DC0017DD0017E00017E9,
   0x00180B00180D00180F0018190018200018780018800018AA0018B00018F500190000191E,
   0x00192000192B00193000193B00194600196D0019700019740019800019AB0019B00019C9,
   0x0019D00019D9001A00001A1B001A20001A5E001A60001A7C001A7F001A89001A90001A99,
   0x001AA7001AA7001AB0001ACE001B00001B4C001B50001B59001B6B001B73001B80001BF3,
   0x001C00001C37001C40001C49001C4D001C7D001C80001C8A001C90001CBA001CBD001CBF,
   0x001CD0001CD2001CD4001CFA001D00001F15001F18001F1D001F20001F45001F48001F4D,
   0x001F50001F57001F59001F59001F5B001F5B001F5D001F5D001F5F001F7D001F80001FB4,
   0x001FB6001FBC001FBE001FBE001FC2001FC4001FC6001FCC001FD0001FD3001FD6001FDB,
   0x001FE0001FEC001FF2001FF4001FF6001FFC00200C00200D00203F002040002054002054,
   0x00207100207100207F00207F00209000209C0020D00020F0002102002102002107002107,
   0x00210A00211300211500211500211900211D002124002124002126002126002128002128,
   0x00212A00212D00212F00213900213C00213F00214500214900214E00214E002160002188,
   0x0024B60024E9002C00002CE4002CEB002CF3002D00002D25002D27002D27002D2D002D2D,
   0x002D30002D67002D6F002D6F002D7F002D96002DA0002DA6002DA8002DAE002DB0002DB6,
   0x002DB8002DBE002DC0002DC6002DC8002DCE002DD0002DD6002DD8002DDE002DE0002DFF,
   0x002E2F002E2F00300500300700302100302F00303100303500303800303C003041003096,
   0x00309900309A00309D00309F0030A10030FA0030FC0030FF00310500312F00313100318E,
   0x0031A00031BF0031F00031FF003400004DBF004E0000A48C00A4D000A4FD00A50000A60C,
   0x00A61000A62B00A64000A67200A67400A67D00A67F00A6F100A71700A71F00A72200A788,
   0x00A78B00A7CD00A7D000A7D100A7D300A7D300A7D500A7DC00A7F200A82700A82C00A82C,
   0x00A84000A87300A88000A8C500A8D000A8D900A8E000A8F700A8FB00A8FB00A8FD00A92D,
   0x00A93000A95300A96000A97C00A98000A9C000A9CF00A9D900A9E000A9FE00AA0000AA36,
   0x00AA4000AA4D00AA5000AA5900AA6000AA7600AA7A00AAC200AADB00AADD00AAE000AAEF,
   0x00AAF200AAF600AB0100AB0600AB0900AB0E00AB1100AB1600AB2000AB2600AB2800AB2E,
   0x00AB3000AB5A00AB5C00AB6900AB7000ABEA00ABEC00ABED00ABF000ABF900AC0000D7A3,
   0x00D7B000D7C600D7CB00D7FB00F90000FA6D00FA7000FAD900FB0000FB0600FB1300FB17,
   0x00FB1D00FB2800FB2A00FB3600FB3800FB3C00FB3E00FB3E00FB4000FB4100FB4300FB44,
   0x00FB4600FBB100FBD300FD3D00FD5000FD8F00FD9200FDC700FDF000FDFB00FE0000FE0F,
   0x00FE2000FE2F00FE3300FE3400FE4D00FE4F00FE7000FE7400FE7600FEFC00FF1000FF19,
   0x00FF2100FF3A00FF3F00FF3F00FF4100FF5A00FF6600FFBE00FFC200FFC700FFCA00FFCF,
   0x00FFD200FFD700FFDA00FFDC01000001000B01000D01002601002801003A01003C01003D,
   0x01003F01004D01005001005D0100800100FA0101400101740101FD0101FD01028001029C,
   0x0102A00102D00102E00102E001030001031F01032D01034A01035001037A01038001039D,
   0x0103A00103C30103C80103CF0103D10103D501040001049D0104A00104A90104B00104D3,
   0x0104D80104FB01050001052701053001056301057001057A01057C01058A01058C010592,
   0x0105940105950105970105A10105A30105B10105B30105B90105BB0105BC0105C00105F3,
   0x0106000107360107400107550107600107670107800107850107870107B00107B20107BA,
   0x01080001080501080801080801080A01083501083701083801083C01083C01083F010855,
   0x01086001087601088001089E0108E00108F20108F40108F5010900010915010920010939,
   0x0109800109B70109BE0109BF010A00010A03010A05010A06010A0C010A13010A15010A17,
   0x010A19010A35010A38010A3A010A3F010A3F010A60010A7C010A80010A9C010AC0010AC7,
   0x010AC9010AE6010B00010B35010B40010B55010B60010B72010B80010B91010C00010C48,
   0x010C80010CB2010CC0010CF2010D00010D27010D30010D39010D40010D65010D69010D6D,
   0x010D6F010D85010E80010EA9010EAB010EAC010EB0010EB1010EC2010EC4010EFC010F1C,
   0x010F27010F27010F30010F50010F70010F85010FB0010FC4010FE0010FF6011000011046,
   0x01106601107501107F0110BA0110C20110C20110D00110E80110F00110F9011100011134,
   0x01113601113F0111440111470111500111730111760111760111800111C40111C90111CC,
   0x0111CE0111DA0111DC0111DC01120001121101121301123701123E011241011280011286,
   0x01128801128801128A01128D01128F01129D01129F0112A80112B00112EA0112F00112F9,
   0x01130001130301130501130C01130F01131001131301132801132A011330011332011333,
   0x01133501133901133B01134401134701134801134B01134D011350011350011357011357,
   0x01135D01136301136601136C01137001137401138001138901138B01138B01138E01138E,
   0x0113900113B50113B70113C00113C20113C20113C50113C50113C70113CA0113CC0113D3,
   0x0113E10113E201140001144A01145001145901145E0114610114800114C50114C70114C7,
   0x0114D00114D90115800115B50115B80115C00115D80115DD011600011640011644011644,
   0x0116500116590116800116B80116C00116C90116D00116E301170001171A01171D01172B,
   0x01173001173901174001174601180001183A0118A00118E90118FF011906011909011909,
   0x01190C01191301191501191601191801193501193701193801193B011943011950011959,
   0x0119A00119A70119AA0119D70119DA0119E10119E30119E4011A00011A3E011A47011A47,
   0x011A50011A99011A9D011A9D011AB0011AF8011BC0011BE0011BF0011BF9011C00011C08,
   0x011C0A011C36011C38011C40011C50011C59011C72011C8F011C92011CA7011CA9011CB6,
   0x011D00011D06011D08011D09011D0B011D36011D3A011D3A011D3C011D3D011D3F011D47,
   0x011D50011D59011D60011D65011D67011D68011D6A011D8E011D90011D91011D93011D98,
   0x011DA0011DA9011EE0011EF6011F00011F10011F12011F3A011F3E011F42011F50011F5A,
   0x011FB0011FB001200001239901240001246E012480012543012F90012FF001300001342F,
   0x0134400134550134600143FA014400014646016100016139016800016A38016A40016A5E,
   0x016A60016A69016A70016ABE016AC0016AC9016AD0016AED016AF0016AF4016B00016B36,
   0x016B40016B43016B50016B59016B63016B77016B7D016B8F016D40016D6C016D70016D79,
   0x016E40016E7F016F00016F4A016F4F016F87016F8F016F9F016FE0016FE1016FE3016FE4,
   0x016FF0016FF10170000187F7018800018CD5018CFF018D0801AFF001AFF301AFF501AFFB,
   0x01AFFD01AFFE01B00001B12201B13201B13201B15001B15201B15501B15501B16401B167,
   0x01B17001B2FB01BC0001BC6A01BC7001BC7C01BC8001BC8801BC9001BC9901BC9D01BC9E,
   0x01CCF001CCF901CF0001CF2D01CF3001CF4601D16501D16901D16D01D17201D17B01D182,
   0x01D18501D18B01D1AA01D1AD01D24201D24401D40001D45401D45601D49C01D49E01D49F,
   0x01D4A201D4A201D4A501D4A601D4A901D4AC01D4AE01D4B901D4BB01D4BB01D4BD01D4C3,
   0x01D4C501D50501D50701D50A01D50D01D51401D51601D51C01D51E01D53901D53B01D53E,
   0x01D54001D54401D54601D54601D54A01D55001D55201D6A501D6A801D6C001D6C201D6DA,
   0x01D6DC01D6FA01D6FC01D71401D71601D73401D73601D74E01D75001D76E01D77001D788,
   0x01D78A01D7A801D7AA01D7C201D7C401D7CB01D7CE01D7FF01DA0001DA3601DA3B01DA6C,
   0x01DA7501DA7501DA8401DA8401DA9B01DA9F01DAA101DAAF01DF0001DF1E01DF2501DF2A,
   0x01E00001E00601E00801E01801E01B01E02101E02301E02401E02601E02A01E03001E06D,
   0x01E08F01E08F01E10001E12C01E13001E13D01E14001E14901E14E01E14E01E29001E2AE,
   0x01E2C001E2F901E4D001E4F901E5D001E5FA01E7E001E7E601E7E801E7EB01E7ED01E7EE,
   0x01E7F001E7FE01E80001E8C401E8D001E8D601E90001E94B01E95001E95901EE0001EE03,
   0x01EE0501EE1F01EE2101EE2201EE2401EE2401EE2701EE2701EE2901EE3201EE3401EE37,
   0x01EE3901EE3901EE3B01EE3B01EE4201EE4201EE4701EE4701EE4901EE4901EE4B01EE4B,
   0x01EE4D01EE4F01EE5101EE5201EE5401EE5401EE5701EE5701EE5901EE5901EE5B01EE5B,
   0x01EE5D01EE5D01EE5F01EE5F01EE6101EE6201EE6401EE6401EE6701EE6A01EE6C01EE72,
   0x01EE7401EE7701EE7901EE7C01EE7E01EE7E01EE8001EE8901EE8B01EE9B01EEA101EEA3,
   0x01EEA501EEA901EEAB01EEBB01F13001F14901F15001F16901F17001F18901FBF001FBF9,
   0x02000002A6DF02A70002B73902B74002B81D02B82002CEA102CEB002EBE002EBF002EE5D,
   0x02F80002FA1D03000003134A0313500323AF0E01000E01EF]

end Unicode

end Scopelight
