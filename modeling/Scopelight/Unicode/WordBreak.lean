import Scopelight.Unicode.Ranges

/-!
# Word breaks

The values of the property that says where words end, as packed range tables.
-/

namespace Scopelight

namespace Unicode

namespace WordBreak

def alphabeticLetter : PackedRanges :=
  [0x00004100005A00006100007A0000AA0000AA0000B50000B50000BA0000BA0000C00000D6,
   0x0000D80000F60000F80002D70002DE0002FF00037000037400037600037700037A00037D,
   0x00037F00037F00038600038600038800038A00038C00038C00038E0003A10003A30003F5,
   0x0003F700048100048A00052F00053100055600055900055C00055E00055E000560000588,
   0x00058A00058A0005F30005F300062000064A00066E00066F0006710006D30006D50006D5,
   0x0006E50006E60006EE0006EF0006FA0006FC0006FF0006FF00070F00071000071200072F,
   0x00074D0007A50007B10007B10007CA0007EA0007F40007F50007FA0007FA000800000815,
   0x00081A00081A00082400082400082800082800084000085800086000086A000870000887,
   0x00088900088E0008A00008C900090400093900093D00093D000950000950000958000961,
   0x00097100098000098500098C00098F0009900009930009A80009AA0009B00009B20009B2,
   0x0009B60009B90009BD0009BD0009CE0009CE0009DC0009DD0009DF0009E10009F00009F1,
   0x0009FC0009FC000A05000A0A000A0F000A10000A13000A28000A2A000A30000A32000A33,
   0x000A35000A36000A38000A39000A59000A5C000A5E000A5E000A72000A74000A85000A8D,
   0x000A8F000A91000A93000AA8000AAA000AB0000AB2000AB3000AB5000AB9000ABD000ABD,
   0x000AD0000AD0000AE0000AE1000AF9000AF9000B05000B0C000B0F000B10000B13000B28,
   0x000B2A000B30000B32000B33000B35000B39000B3D000B3D000B5C000B5D000B5F000B61,
   0x000B71000B71000B83000B83000B85000B8A000B8E000B90000B92000B95000B99000B9A,
   0x000B9C000B9C000B9E000B9F000BA3000BA4000BA8000BAA000BAE000BB9000BD0000BD0,
   0x000C05000C0C000C0E000C10000C12000C28000C2A000C39000C3D000C3D000C58000C5A,
   0x000C5D000C5D000C60000C61000C80000C80000C85000C8C000C8E000C90000C92000CA8,
   0x000CAA000CB3000CB5000CB9000CBD000CBD000CDD000CDE000CE0000CE1000CF1000CF2,
   0x000D04000D0C000D0E000D10000D12000D3A000D3D000D3D000D4E000D4E000D54000D56,
   0x000D5F000D61000D7A000D7F000D85000D96000D9A000DB1000DB3000DBB000DBD000DBD,
   0x000DC0000DC6000F00000F00000F40000F47000F49000F6C000F88000F8C0010A00010C5,
   0x0010C70010C70010CD0010CD0010D00010FA0010FC00124800124A00124D001250001256,
   0x00125800125800125A00125D00126000128800128A00128D0012900012B00012B20012B5,
   0x0012B80012BE0012C00012C00012C20012C50012C80012D60012D8001310001312001315,
   0x00131800135A00138000138F0013A00013F50013F80013FD00140100166C00166F00167F,
   0x00168100169A0016A00016EA0016EE0016F800170000171100171F001731001740001751,
   0x00176000176C00176E0017700018200018780018800018840018870018A80018AA0018AA,
   0x0018B00018F500190000191E001A00001A16001B05001B33001B45001B4C001B83001BA0,
   0x001BAE001BAF001BBA001BE5001C00001C23001C4D001C4F001C5A001C7D001C80001C8A,
   0x001C90001CBA001CBD001CBF001CE9001CEC001CEE001CF3001CF5001CF6001CFA001CFA,
   0x001D00001DBF001E00001F15001F18001F1D001F20001F45001F48001F4D001F50001F57,
   0x001F59001F59001F5B001F5B001F5D001F5D001F5F001F7D001F80001FB4001FB6001FBC,
   0x001FBE001FBE001FC2001FC4001FC6001FCC001FD0001FD3001FD6001FDB001FE0001FEC,
   0x001FF2001FF4001FF6001FFC00207100207100207F00207F00209000209C002102002102,
   0x00210700210700210A00211300211500211500211900211D002124002124002126002126,
   0x00212800212800212A00212D00212F00213900213C00213F00214500214900214E00214E,
   0x0021600021880024B60024E9002C00002CE4002CEB002CEE002CF2002CF3002D00002D25,
   0x002D27002D27002D2D002D2D002D30002D67002D6F002D6F002D80002D96002DA0002DA6,
   0x002DA8002DAE002DB0002DB6002DB8002DBE002DC0002DC6002DC8002DCE002DD0002DD6,
   0x002DD8002DDE002E2F002E2F00300500300500303B00303C00310500312F00313100318E,
   0x0031A00031BF00A00000A48C00A4D000A4FD00A50000A60C00A61000A61F00A62A00A62B,
   0x00A64000A66E00A67F00A69D00A6A000A6EF00A70800A7CD00A7D000A7D100A7D300A7D3,
   0x00A7D500A7DC00A7F200A80100A80300A80500A80700A80A00A80C00A82200A84000A873,
   0x00A88200A8B300A8F200A8F700A8FB00A8FB00A8FD00A8FE00A90A00A92500A93000A946,
   0x00A96000A97C00A98400A9B200A9CF00A9CF00AA0000AA2800AA4000AA4200AA4400AA4B,
   0x00AAE000AAEA00AAF200AAF400AB0100AB0600AB0900AB0E00AB1100AB1600AB2000AB26,
   0x00AB2800AB2E00AB3000AB6900AB7000ABE200AC0000D7A300D7B000D7C600D7CB00D7FB,
   0x00FB0000FB0600FB1300FB1700FB5000FBB100FBD300FD3D00FD5000FD8F00FD9200FDC7,
   0x00FDF000FDFB00FE7000FE7400FE7600FEFC00FF2100FF3A00FF4100FF5A00FFA000FFBE,
   0x00FFC200FFC700FFCA00FFCF00FFD200FFD700FFDA00FFDC01000001000B01000D010026,
   0x01002801003A01003C01003D01003F01004D01005001005D0100800100FA010140010174,
   0x01028001029C0102A00102D001030001031F01032D01034A01035001037501038001039D,
   0x0103A00103C30103C80103CF0103D10103D501040001049D0104B00104D30104D80104FB,
   0x01050001052701053001056301057001057A01057C01058A01058C010592010594010595,
   0x0105970105A10105A30105B10105B30105B90105BB0105BC0105C00105F3010600010736,
   0x0107400107550107600107670107800107850107870107B00107B20107BA010800010805,
   0x01080801080801080A01083501083701083801083C01083C01083F010855010860010876,
   0x01088001089E0108E00108F20108F40108F50109000109150109200109390109800109B7,
   0x0109BE0109BF010A00010A00010A10010A13010A15010A17010A19010A35010A60010A7C,
   0x010A80010A9C010AC0010AC7010AC9010AE4010B00010B35010B40010B55010B60010B72,
   0x010B80010B91010C00010C48010C80010CB2010CC0010CF2010D00010D23010D4A010D65,
   0x010D6F010D85010E80010EA9010EB0010EB1010EC2010EC4010F00010F1C010F27010F27,
   0x010F30010F45010F70010F81010FB0010FC4010FE0010FF6011003011037011071011072,
   0x0110750110750110830110AF0110D00110E8011103011126011144011144011147011147,
   0x0111500111720111760111760111830111B20111C10111C40111DA0111DA0111DC0111DC,
   0x01120001121101121301122B01123F01124001128001128601128801128801128A01128D,
   0x01128F01129D01129F0112A80112B00112DE01130501130C01130F011310011313011328,
   0x01132A01133001133201133301133501133901133D01133D01135001135001135D011361,
   0x01138001138901138B01138B01138E01138E0113900113B50113B70113B70113D10113D1,
   0x0113D30113D301140001143401144701144A01145F0114610114800114AF0114C40114C5,
   0x0114C70114C70115800115AE0115D80115DB01160001162F0116440116440116800116AA,
   0x0116B80116B801180001182B0118A00118DF0118FF01190601190901190901190C011913,
   0x01191501191601191801192F01193F01193F0119410119410119A00119A70119AA0119D0,
   0x0119E10119E10119E30119E3011A00011A00011A0B011A32011A3A011A3A011A50011A50,
   0x011A5C011A89011A9D011A9D011AB0011AF8011BC0011BE0011C00011C08011C0A011C2E,
   0x011C40011C40011C72011C8F011D00011D06011D08011D09011D0B011D30011D46011D46,
   0x011D60011D65011D67011D68011D6A011D89011D98011D98011EE0011EF2011F02011F02,
   0x011F04011F10011F12011F33011FB0011FB001200001239901240001246E012480012543,
   0x012F90012FF001300001342F0134410134460134600143FA01440001464601610001611D,
   0x016800016A38016A40016A5E016A70016ABE016AD0016AED016B00016B2F016B40016B43,
   0x016B63016B77016B7D016B8F016D40016D6C016E40016E7F016F00016F4A016F50016F50,
   0x016F93016F9F016FE0016FE1016FE3016FE301BC0001BC6A01BC7001BC7C01BC8001BC88,
   0x01BC9001BC9901D40001D45401D45601D49C01D49E01D49F01D4A201D4A201D4A501D4A6,
   0x01D4A901D4AC01D4AE01D4B901D4BB01D4BB01D4BD01D4C301D4C501D50501D50701D50A,
   0x01D50D01D51401D51601D51C01D51E01D53901D53B01D53E01D54001D54401D54601D546,
   0x01D54A01D55001D55201D6A501D6A801D6C001D6C201D6DA01D6DC01D6FA01D6FC01D714,
   0x01D71601D73401D73601D74E01D75001D76E01D77001D78801D78A01D7A801D7AA01D7C2,
   0x01D7C401D7CB01DF0001DF1E01DF2501DF2A01E03001E06D01E10001E12C01E13701E13D,
   0x01E14E01E14E01E29001E2AD01E2C001E2EB01E4D001E4EB01E5D001E5ED01E5F001E5F0,
   0x01E7E001E7E601E7E801E7EB01E7ED01E7EE01E7F001E7FE01E80001E8C401E90001E943,
   0x01E94B01E94B01EE0001EE0301EE0501EE1F01EE2101EE2201EE2401EE2401EE2701EE27,
   0x01EE2901EE3201EE3401EE3701EE3901EE3901EE3B01EE3B01EE4201EE4201EE4701EE47,
   0x01EE4901EE4901EE4B01EE4B01EE4D01EE4F01EE5101EE5201EE5401EE5401EE5701EE57,
   0x01EE5901EE5901EE5B01EE5B01EE5D01EE5D01EE5F01EE5F01EE6101EE6201EE6401EE64,
   0x01EE6701EE6A01EE6C01EE7201EE7401EE7701EE7901EE7C01EE7E01EE7E01EE8001EE89,
   0x01EE8B01EE9B01EEA101EEA301EEA501EEA901EEAB01EEBB01F13001F14901F15001F169,
   0x01F17001F189]

def carriageReturn : PackedRanges :=
  [0x00000D00000D]

def doubleQuote : PackedRanges :=
  [0x000022000022]

def extend : PackedRanges :=
  [0x00030000036F0004830004890005910005BD0005BF0005BF0005C10005C20005C40005C5,
   0x0005C70005C700061000061A00064B00065F0006700006700006D60006DC0006DF0006E4,
   0x0006E70006E80006EA0006ED00071100071100073000074A0007A60007B00007EB0007F3,
   0x0007FD0007FD00081600081900081B00082300082500082700082900082D00085900085B,
   0x00089700089F0008CA0008E10008E300090300093A00093C00093E00094F000951000957,
   0x0009620009630009810009830009BC0009BC0009BE0009C40009C70009C80009CB0009CD,
   0x0009D70009D70009E20009E30009FE0009FE000A01000A03000A3C000A3C000A3E000A42,
   0x000A47000A48000A4B000A4D000A51000A51000A70000A71000A75000A75000A81000A83,
   0x000ABC000ABC000ABE000AC5000AC7000AC9000ACB000ACD000AE2000AE3000AFA000AFF,
   0x000B01000B03000B3C000B3C000B3E000B44000B47000B48000B4B000B4D000B55000B57,
   0x000B62000B63000B82000B82000BBE000BC2000BC6000BC8000BCA000BCD000BD7000BD7,
   0x000C00000C04000C3C000C3C000C3E000C44000C46000C48000C4A000C4D000C55000C56,
   0x000C62000C63000C81000C83000CBC000CBC000CBE000CC4000CC6000CC8000CCA000CCD,
   0x000CD5000CD6000CE2000CE3000CF3000CF3000D00000D03000D3B000D3C000D3E000D44,
   0x000D46000D48000D4A000D4D000D57000D57000D62000D63000D81000D83000DCA000DCA,
   0x000DCF000DD4000DD6000DD6000DD8000DDF000DF2000DF3000E31000E31000E34000E3A,
   0x000E47000E4E000EB1000EB1000EB4000EBC000EC8000ECE000F18000F19000F35000F35,
   0x000F37000F37000F39000F39000F3E000F3F000F71000F84000F86000F87000F8D000F97,
   0x000F99000FBC000FC6000FC600102B00103E00105600105900105E001060001062001064,
   0x00106700106D00107100107400108200108D00108F00108F00109A00109D00135D00135F,
   0x0017120017150017320017340017520017530017720017730017B40017D30017DD0017DD,
   0x00180B00180D00180F00180F0018850018860018A90018A900192000192B00193000193B,
   0x001A17001A1B001A55001A5E001A60001A7C001A7F001A7F001AB0001ACE001B00001B04,
   0x001B34001B44001B6B001B73001B80001B82001BA1001BAD001BE6001BF3001C24001C37,
   0x001CD0001CD2001CD4001CE8001CED001CED001CF4001CF4001CF7001CF9001DC0001DFF,
   0x00200C00200C0020D00020F0002CEF002CF1002D7F002D7F002DE0002DFF00302A00302F,
   0x00309900309A00A66F00A67200A67400A67D00A69E00A69F00A6F000A6F100A80200A802,
   0x00A80600A80600A80B00A80B00A82300A82700A82C00A82C00A88000A88100A8B400A8C5,
   0x00A8E000A8F100A8FF00A8FF00A92600A92D00A94700A95300A98000A98300A9B300A9C0,
   0x00A9E500A9E500AA2900AA3600AA4300AA4300AA4C00AA4D00AA7B00AA7D00AAB000AAB0,
   0x00AAB200AAB400AAB700AAB800AABE00AABF00AAC100AAC100AAEB00AAEF00AAF500AAF6,
   0x00ABE300ABEA00ABEC00ABED00FB1E00FB1E00FE0000FE0F00FE2000FE2F00FF9E00FF9F,
   0x0101FD0101FD0102E00102E001037601037A010A01010A03010A05010A06010A0C010A0F,
   0x010A38010A3A010A3F010A3F010AE5010AE6010D24010D27010D69010D6D010EAB010EAC,
   0x010EFC010EFF010F46010F50010F82010F85011000011002011038011046011070011070,
   0x01107301107401107F0110820110B00110BA0110C20110C2011100011102011127011134,
   0x0111450111460111730111730111800111820111B30111C00111C90111CC0111CE0111CF,
   0x01122C01123701123E01123E0112410112410112DF0112EA01130001130301133B01133C,
   0x01133E01134401134701134801134B01134D01135701135701136201136301136601136C,
   0x0113700113740113B80113C00113C20113C20113C50113C50113C70113CA0113CC0113D0,
   0x0113D20113D20113E10113E201143501144601145E01145E0114B00114C30115AF0115B5,
   0x0115B80115C00115DC0115DD0116300116400116AB0116B701171D01172B01182C01183A,
   0x01193001193501193701193801193B01193E0119400119400119420119430119D10119D7,
   0x0119DA0119E00119E40119E4011A01011A0A011A33011A39011A3B011A3E011A47011A47,
   0x011A51011A5B011A8A011A99011C2F011C36011C38011C3F011C92011CA7011CA9011CB6,
   0x011D31011D36011D3A011D3A011D3C011D3D011D3F011D45011D47011D47011D8A011D8E,
   0x011D90011D91011D93011D97011EF3011EF6011F00011F01011F03011F03011F34011F3A,
   0x011F3E011F42011F5A011F5A01344001344001344701345501611E01612F016AF0016AF4,
   0x016B30016B36016F4F016F4F016F51016F87016F8F016F92016FE4016FE4016FF0016FF1,
   0x01BC9D01BC9E01CF0001CF2D01CF3001CF4601D16501D16901D16D01D17201D17B01D182,
   0x01D18501D18B01D1AA01D1AD01D24201D24401DA0001DA3601DA3B01DA6C01DA7501DA75,
   0x01DA8401DA8401DA9B01DA9F01DAA101DAAF01E00001E00601E00801E01801E01B01E021,
   0x01E02301E02401E02601E02A01E08F01E08F01E13001E13601E2AE01E2AE01E2EC01E2EF,
   0x01E4EC01E4EF01E5EE01E5EF01E8D001E8D601E94401E94A01F3FB01F3FF0E00200E007F,
   0x0E01000E01EF]

def extendNumLet : PackedRanges :=
  [0x00005F00005F00202F00202F00203F00204000205400205400FE3300FE3400FE4D00FE4F,
   0x00FF3F00FF3F]

def format : PackedRanges :=
  [0x0000AD0000AD00061C00061C00180E00180E00200E00200F00202A00202E002060002064,
   0x00206600206F00FEFF00FEFF00FFF900FFFB01343001343F01BCA001BCA301D17301D17A,
   0x0E00010E0001]

def hebrewLetter : PackedRanges :=
  [0x0005D00005EA0005EF0005F200FB1D00FB1D00FB1F00FB2800FB2A00FB3600FB3800FB3C,
   0x00FB3E00FB3E00FB4000FB4100FB4300FB4400FB4600FB4F]

def katakana : PackedRanges :=
  [0x00303100303500309B00309C0030A00030FA0030FC0030FF0031F00031FF0032D00032FE,
   0x00330000335700FF6600FF9D01AFF001AFF301AFF501AFFB01AFFD01AFFE01B00001B000,
   0x01B12001B12201B15501B15501B16401B167]

def lineFeed : PackedRanges :=
  [0x00000A00000A]

def midLetter : PackedRanges :=
  [0x00003A00003A0000B70000B700038700038700055F00055F0005F40005F4002027002027,
   0x00FE1300FE1300FE5500FE5500FF1A00FF1A]

def midNum : PackedRanges :=
  [0x00002C00002C00003B00003B00037E00037E00058900058900060C00060D00066C00066C,
   0x0007F80007F800204400204400FE5000FE5000FE5400FE5400FF0C00FF0C00FF1B00FF1B]

def midNumLet : PackedRanges :=
  [0x00002E00002E00201800201900202400202400FE5200FE5200FF0700FF0700FF0E00FF0E]

def newline : PackedRanges :=
  [0x00000B00000C000085000085002028002029]

def numeric : PackedRanges :=
  [0x00003000003900060000060500066000066900066B00066B0006DD0006DD0006F00006F9,
   0x0007C00007C90008900008910008E20008E200096600096F0009E60009EF000A66000A6F,
   0x000AE6000AEF000B66000B6F000BE6000BEF000C66000C6F000CE6000CEF000D66000D6F,
   0x000DE6000DEF000E50000E59000ED0000ED9000F20000F29001040001049001090001099,
   0x0017E00017E900181000181900194600194F0019D00019DA001A80001A89001A90001A99,
   0x001B50001B59001BB0001BB9001C40001C49001C50001C5900A62000A62900A8D000A8D9,
   0x00A90000A90900A9D000A9D900A9F000A9F900AA5000AA5900ABF000ABF900FF1000FF19,
   0x0104A00104A9010D30010D39010D40010D4901106601106F0110BD0110BD0110CD0110CD,
   0x0110F00110F901113601113F0111D00111D90112F00112F90114500114590114D00114D9,
   0x0116500116590116C00116C90116D00116E30117300117390118E00118E9011950011959,
   0x011BF0011BF9011C50011C59011D50011D59011DA0011DA9011F50011F59016130016139,
   0x016A60016A69016AC0016AC9016B50016B59016D70016D7901CCF001CCF901D7CE01D7FF,
   0x01E14001E14901E2F001E2F901E4F001E4F901E5F101E5FA01E95001E95901FBF001FBF9]

def regionalIndicator : PackedRanges :=
  [0x01F1E601F1FF]

def singleQuote : PackedRanges :=
  [0x000027000027]

def wordSpace : PackedRanges :=
  [0x00002000002000168000168000200000200600200800200A00205F00205F003000003000]

def joiner : PackedRanges :=
  [0x00200D00200D]

/-- The tables under the loosely matched names of their values. -/
def byName : List (List String × PackedRanges) := [
  (["le", "aletter"], alphabeticLetter),
  (["cr"], carriageReturn),
  (["dq", "doublequote"], doubleQuote),
  (["extend"], extend),
  (["ex", "extendnumlet"], extendNumLet),
  (["fo", "format"], format),
  (["hl", "hebrewletter"], hebrewLetter),
  (["ka", "katakana"], katakana),
  (["lf"], lineFeed),
  (["ml", "midletter"], midLetter),
  (["mn", "midnum"], midNum),
  (["mb", "midnumlet"], midNumLet),
  (["nl", "newline"], newline),
  (["nu", "numeric"], numeric),
  (["ri", "regionalindicator"], regionalIndicator),
  (["sq", "singlequote"], singleQuote),
  (["wsegspace"], wordSpace),
  (["zwj"], joiner)]

end WordBreak

end Unicode

end Scopelight
