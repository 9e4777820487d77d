import Scopelight.Unicode.Ranges

/-!
# Further yes-or-no properties

The remaining yes-or-no properties, as packed range tables.
-/

namespace Scopelight

namespace Unicode

namespace Properties

def asciiHexDigit : PackedRanges :=
  [0x000030000039000041000046000061000066]

def bidiControl : PackedRanges :=
  [0x00061C00061C00200E00200F00202A00202E002066002069]

def bidiMirrored : PackedRanges :=
  [0x00002800002900003C00003C00003E00003E00005B00005B00005D00005D00007B00007B,
   0x00007D00007D0000AB0000AB0000BB0000BB000F3A000F3D00169B00169C00203900203A,
   0x00204500204600207D00207E00208D00208E00214000214000220100220400220800220D,
   0x00221100221100221500221600221A00221D00221F002222002224002224002226002226,
   0x00222B00223300223900223900223B00224C00225200225500225F002260002262002262,
   0x00226400226B00226D00228C00228F0022920022980022980022A20022A30022A60022B8,
   0x0022BE0022BF0022C90022CD0022D00022D10022D60022ED0022F00022FF00230800230B,
   0x00232000232100232900232A0027680027750027C00027C00027C30027C60027C80027C9,
   0x0027CB0027CD0027D30027D60027DC0027DE0027E20027EF00298300299800299B0029A0,
   0x0029A20029AF0029B80029B80029C00029C50029C90029C90029CE0029D20029D40029D5,
   0x0029D80029DC0029E10029E10029E30029E50029E80029E90029F40029F90029FC0029FD,
   0x002A0A002A1C002A1E002A21002A24002A24002A26002A26002A29002A29002A2B002A2E,
   0x002A34002A35002A3C002A3E002A57002A58002A64002A65002A6A002A6D002A6F002A70,
   0x002A73002A74002A79002AA3002AA6002AAD002AAF002AD6002ADC002ADC002ADE002ADE,
   0x002AE2002AE6002AEC002AEE002AF3002AF3002AF7002AFB002AFD002AFD002BFE002BFE,
   0x002E02002E05002E09002E0A002E0C002E0D002E1C002E1D002E20002E29002E55002E5C,
   0x00300800301100301400301B00FE5900FE5E00FE6400FE6500FF0800FF0900FF1C00FF1C,
   0x00FF1E00FF1E00FF3B00FF3B00FF3D00FF3D00FF5B00FF5B00FF5D00FF5D00FF5F00FF60,
   0x00FF6200FF6301D6DB01D6DB01D71501D71501D74F01D74F01D78901D78901D7C301D7C3]

def dash : PackedRanges :=
  [0x00002D00002D00058A00058A0005BE0005BE001400001400001806001806002010002015,
   0x00205300205300207B00207B00208B00208B002212002212002E17002E17002E1A002E1A,
   0x002E3A002E3B002E40002E40002E5D002E5D00301C00301C0030300030300030A00030A0,
   0x00FE3100FE3200FE5800FE5800FE6300FE6300FF0D00FF0D010D6E010D6E010EAD010EAD]

def defaultIgnorableCodePoint : PackedRanges :=
  [0x0000AD0000AD00034F00034F00061C00061C00115F0011600017B40017B500180B00180F,
   0x00200B00200F00202A00202E00206000206F00316400316400FE0000FE0F00FEFF00FEFF,
   0x00FFA000FFA000FFF000FFF801BCA001BCA301D17301D17A0E00000E0FFF]

def deprecated : PackedRanges :=
  [0x000149000149000673000673000F77000F77000F79000F790017A30017A400206A00206F,
   0x00232900232A0E00010E0001]

def diacritic : PackedRanges :=
  [0x00005E00005E0000600000600000A80000A80000AF0000AF0000B40000B40000B70000B8,
   0x0002B000034E00035000035700035D00036200037400037500037A00037A000384000385,
   0x0004830004870005590005590005910005A10005A30005BD0005BF0005BF0005C10005C2,
   0x0005C40005C400064B0006520006570006580006DF0006E00006E50006E60006EA0006EC,
   0x00073000074A0007A60007B00007EB0007F500081800081900089800089F0008C90008D2,
   0x0008E30008FE00093C00093C00094D00094D0009510009540009710009710009BC0009BC,
   0x0009CD0009CD000A3C000A3C000A4D000A4D000ABC000ABC000ACD000ACD000AFD000AFF,
   0x000B3C000B3C000B4D000B4D000B55000B55000BCD000BCD000C3C000C3C000C4D000C4D,
   0x000CBC000CBC000CCD000CCD000D3B000D3C000D4D000D4D000DCA000DCA000E3A000E3A,
   0x000E47000E4C000E4E000E4E000EBA000EBA000EC8000ECC000F18000F19000F35000F35,
   0x000F37000F37000F39000F39000F3E000F3F000F82000F84000F86000F87000FC6000FC6,
   0x00103700103700103900103A00106300106400106900106D00108700108D00108F00108F,
   0x00109A00109B00135D00135F0017140017150017340017340017C90017D30017DD0017DD,
   0x00193900193B001A60001A60001A75001A7C001A7F001A7F001AB0001ABE001AC1001ACB,
   0x001B34001B34001B44001B44001B6B001B73001BAA001BAB001BE6001BE6001BF2001BF3,
   0x001C36001C37001C78001C7D001CD0001CE8001CED001CED001CF4001CF4001CF7001CF9,
   0x001D2C001D6A001DC4001DCF001DF5001DFF001FBD001FBD001FBF001FC1001FCD001FCF,
   0x001FDD001FDF001FED001FEF001FFD001FFE002CEF002CF1002E2F002E2F00302A00302F,
   0x00309900309C0030FC0030FC00A66F00A66F00A67C00A67D00A67F00A67F00A69C00A69D,
   0x00A6F000A6F100A70000A72100A78800A78A00A7F800A7F900A80600A80600A82C00A82C,
   0x00A8C400A8C400A8E000A8F100A92B00A92E00A95300A95300A9B300A9B300A9C000A9C0,
   0x00A9E500A9E500AA7B00AA7D00AABF00AAC200AAF600AAF600AB5B00AB5F00AB6900AB6B,
   0x00ABEC00ABED00FB1E00FB1E00FE2000FE2F00FF3E00FF3E00FF4000FF4000FF7000FF70,
   0x00FF9E00FF9F00FFE300FFE30102E00102E00107800107850107870107B00107B20107BA,
   0x010A38010A3A010A3F010A3F010AE5010AE6010D22010D27010D4E010D4E010D69010D6D,
   0x010EFD010EFF010F46010F50010F82010F850110460110460110700110700110B90110BA,
   0x0111330111340111730111730111C00111C00111CA0111CC0112350112360112E90112EA,
   0x01133B01133C01134D01134D01136601136C0113700113740113CE0113D00113D20113D3,
   0x0113E10113E20114420114420114460114460114C20114C30115BF0115C001163F01163F,
   0x0116B60116B701172B01172B01183901183A01193D01193E0119430119430119E00119E0,
   0x011A34011A34011A47011A47011A99011A99011C3F011C3F011D42011D42011D44011D45,
   0x011D97011D97011F41011F42011F5A011F5A01344701345501612F01612F016AF0016AF4,
   0x016B30016B36016D6B016D6C016F8F016F9F016FF0016FF101AFF001AFF301AFF501AFFB,
   0x01AFFD01AFFE01CF0001CF2D01CF3001CF4601D16701D16901D16D01D17201D17B01D182,
   0x01D18501D18B01D1AA01D1AD01E03001E06D01E13001E13601E2AE01E2AE01E2EC01E2EF,
   0x01E5EE01E5EF01E8D001E8D601E94401E94601E94801E94A]

def extender : PackedRanges :=
  [0x0000B70000B70002D00002D10006400006400007FA0007FA000A71000A71000AFB000AFB,
   0x000B55000B55000E46000E46000EC6000EC600180A00180A001843001843001AA7001AA7,
   0x001C36001C36001C7B001C7B00300500300500303100303500309D00309E0030FC0030FE,
   0x00A01500A01500A60C00A60C00A9CF00A9CF00A9E600A9E600AA7000AA7000AADD00AADD,
   0x00AAF300AAF400FF7000FF70010781010782010D4E010D4E010D6A010D6A010D6F010D6F,
   0x01123701123701135D01135D0113D20113D30115C60115C8011A98011A98016B42016B43,
   0x016FE0016FE1016FE3016FE301E13C01E13D01E5EF01E5EF01E94401E946]

def graphemeBase : PackedRanges :=
  [0x00002000007E0000A00000AC0000AE0002FF00037000037700037A00037F00038400038A,
   0x00038C00038C00038E0003A10003A300048200048A00052F00053100055600055900058A,
   0x00058D00058F0005BE0005BE0005C00005C00005C30005C30005C60005C60005D00005EA,
   0x0005EF0005F400060600060F00061B00061B00061D00064A00066000066F0006710006D5,
   0x0006DE0006DE0006E50006E60006E90006E90006EE00070D00071000071000071200072F,
   0x00074D0007A50007B10007B10007C00007EA0007F40007FA0007FE00081500081A00081A,
   0x00082400082400082800082800083000083E00084000085800085E00085E00086000086A,
   0x00087000088E0008A00008C900090300093900093B00093B00093D00094000094900094C,
   0x00094E00095000095800096100096400098000098200098300098500098C00098F000990,
   0x0009930009A80009AA0009B00009B20009B20009B60009B90009BD0009BD0009BF0009C0,
   0x0009C70009C80009CB0009CC0009CE0009CE0009DC0009DD0009DF0009E10009E60009FD,
   0x000A03000A03000A05000A0A000A0F000A10000A13000A28000A2A000A30000A32000A33,
   0x000A35000A36000A38000A39000A3E000A40000A59000A5C000A5E000A5E000A66000A6F,
   0x000A72000A74000A76000A76000A83000A83000A85000A8D000A8F000A91000A93000AA8,
   0x000AAA000AB0000AB2000AB3000AB5000AB9000ABD000AC0000AC9000AC9000ACB000ACC,
   0x000AD0000AD0000AE0000AE1000AE6000AF1000AF9000AF9000B02000B03000B05000B0C,
   0x000B0F000B10000B13000B28000B2A000B30000B32000B33000B35000B39000B3D000B3D,
   0x000B40000B40000B47000B48000B4B000B4C000B5C000B5D000B5F000B61000B66000B77,
   0x000B83000B83000B85000B8A000B8E000B90000B92000B95000B99000B9A000B9C000B9C,
   0x000B9E000B9F000BA3000BA4000BA8000BAA000BAE000BB9000BBF000BBF000BC1000BC2,
   0x000BC6000BC8000BCA000BCC000BD0000BD0000BE6000BFA000C01000C03000C05000C0C,
   0x000C0E000C10000C12000C28000C2A000C39000C3D000C3D000C41000C44000C58000C5A,
   0x000C5D000C5D000C60000C61000C66000C6F000C77000C80000C82000C8C000C8E000C90,
   0x000C92000CA8000CAA000CB3000CB5000CB9000CBD000CBE000CC1000CC1000CC3000CC4,
   0x000CDD000CDE000CE0000CE1000CE6000CEF000CF1000CF3000D02000D0C000D0E000D10,
   0x000D12000D3A000D3D000D3D000D3F000D40000D46000D48000D4A000D4C000D4E000D4F,
   0x000D54000D56000D58000D61000D66000D7F000D82000D83000D85000D96000D9A000DB1,
   0x000DB3000DBB000DBD000DBD000DC0000DC6000DD0000DD1000DD8000DDE000DE6000DEF,
   0x000DF2000DF4000E01000E30000E32000E33000E3F000E46000E4F000E5B000E81000E82,
   0x000E84000E84000E86000E8A000E8C000EA3000EA5000EA5000EA7000EB0000EB2000EB3,
   0x000EBD000EBD000EC0000EC4000EC6000EC6000ED0000ED9000EDC000EDF000F00000F17,
   0x000F1A000F34000F36000F36000F38000F38000F3A000F47000F49000F6C000F7F000F7F,
   0x000F85000F85000F88000F8C000FBE000FC5000FC7000FCC000FCE000FDA00100000102C,
   0x00103100103100103800103800103B00103C00103F00105700105A00105D001061001070,
   0x00107500108100108300108400108700108C00108E00109C00109E0010C50010C70010C7,
   0x0010CD0010CD0010D000124800124A00124D00125000125600125800125800125A00125D,
   0x00126000128800128A00128D0012900012B00012B20012B50012B80012BE0012C00012C0,
   0x0012C20012C50012C80012D60012D800131000131200131500131800135A00136000137C,
   0x0013800013990013A00013F50013F80013FD00140000169C0016A00016F8001700001711,
   0x00171F00173100173500173600174000175100176000176C00176E0017700017800017B3,
   0x0017B60017B60017BE0017C50017C70017C80017D40017DC0017E00017E90017F00017F9,
   0x00180000180A0018100018190018200018780018800018840018870018A80018AA0018AA,
   0x0018B00018F500190000191E00192300192600192900192B001930001931001933001938,
   0x00194000194000194400196D0019700019740019800019AB0019B00019C90019D00019DA,
   0x0019DE001A16001A19001A1A001A1E001A55001A57001A57001A61001A61001A63001A64,
   0x001A6D001A72001A80001A89001A90001A99001AA0001AAD001B04001B33001B3E001B41,
   0x001B45001B4C001B4E001B6A001B74001B7F001B82001BA1001BA6001BA7001BAE001BE5,
   0x001BE7001BE7001BEA001BEC001BEE001BEE001BFC001C2B001C34001C35001C3B001C49,
   0x001C4D001C8A001C90001CBA001CBD001CC7001CD3001CD3001CE1001CE1001CE9001CEC,
   0x001CEE001CF3001CF5001CF7001CFA001CFA001D00001DBF001E00001F15001F18001F1D,
   0x001F20001F45001F48001F4D001F50001F57001F59001F59001F5B001F5B001F5D001F5D,
   0x001F5F001F7D001F80001FB4001FB6001FC4001FC6001FD3001FD6001FDB001FDD001FEF,
   0x001FF2001FF4001FF6001FFE00200000200A00201000202700202F00205F002070002071,
   0x00207400208E00209000209C0020A00020C000210000218B00219000242900244000244A,
   0x002460002B73002B76002B95002B97002CEE002CF2002CF3002CF9002D25002D27002D27,
   0x002D2D002D2D002D30002D67002D6F002D70002D80002D96002DA0002DA6002DA8002DAE,
   0x002DB0002DB6002DB8002DBE002DC0002DC6002DC8002DCE002DD0002DD6002DD8002DDE,
   0x002E00002E5D002E80002E99002E9B002EF3002F00002FD5002FF000302900303000303F,
   0x00304100309600309B0030FF00310500312F00313100318E0031900031E50031EF00321E,
   0x00322000A48C00A49000A4C600A4D000A62B00A64000A66E00A67300A67300A67E00A69D,
   0x00A6A000A6EF00A6F200A6F700A70000A7CD00A7D000A7D100A7D300A7D300A7D500A7DC,
   0x00A7F200A80100A80300A80500A80700A80A00A80C00A82400A82700A82B00A83000A839,
   0x00A84000A87700A88000A8C300A8CE00A8D900A8F200A8FE00A90000A92500A92E00A946,
   0x00A95200A95200A95F00A97C00A98300A9B200A9B400A9B500A9BA00A9BB00A9BE00A9BF,
   0x00A9C100A9CD00A9CF00A9D900A9DE00A9E400A9E600A9FE00AA0000AA2800AA2F00AA30,
   0x00AA3300AA3400AA4000AA4200AA4400AA4B00AA4D00AA4D00AA5000AA5900AA5C00AA7B,
   0x00AA7D00AAAF00AAB100AAB100AAB500AAB600AAB900AABD00AAC000AAC000AAC200AAC2,
   0x00AADB00AAEB00AAEE00AAF500AB0100AB0600AB0900AB0E00AB1100AB1600AB2000AB26,
   0x00AB2800AB2E00AB3000AB6B00AB7000ABE400ABE600ABE700ABE900ABEC00ABF000ABF9,
   0x00AC0000D7A300D7B000D7C600D7CB00D7FB00F90000FA6D00FA7000FAD900FB0000FB06,
   0x00FB1300FB1700FB1D00FB1D00FB1F00FB3600FB3800FB3C00FB3E00FB3E00FB4000FB41,
   0x00FB4300FB4400FB4600FBC200FBD300FD8F00FD9200FDC700FDCF00FDCF00FDF000FDFF,
   0x00FE1000FE1900FE3000FE5200FE5400FE6600FE6800FE6B00FE7000FE7400FE7600FEFC,
   0x00FF0100FF9D00FFA000FFBE00FFC200FFC700FFCA00FFCF00FFD200FFD700FFDA00FFDC,
   0x00FFE000FFE600FFE800FFEE00FFFC00FFFD01000001000B01000D01002601002801003A,
   0x01003C01003D01003F01004D01005001005D0100800100FA010100010102010107010133,
   0x01013701018E01019001019C0101A00101A00101D00101FC01028001029C0102A00102D0,
   0x0102E10102FB01030001032301032D01034A01035001037501038001039D01039F0103C3,
   0x0103C80103D501040001049D0104A00104A90104B00104D30104D80104FB010500010527,
   0x01053001056301056F01057A01057C01058A01058C0105920105940105950105970105A1,
   0x0105A30105B10105B30105B90105BB0105BC0105C00105F3010600010736010740010755,
   0x0107600107670107800107850107870107B00107B20107BA010800010805010808010808,
   0x01080A01083501083701083801083C01083C01083F01085501085701089E0108A70108AF,
   0x0108E00108F20108F40108F50108FB01091B01091F01093901093F01093F0109800109B7,
   0x0109BC0109CF0109D2010A00010A10010A13010A15010A17010A19010A35010A40010A48,
   0x010A50010A58010A60010A9F010AC0010AE4010AEB010AF6010B00010B35010B39010B55,
   0x010B58010B72010B78010B91010B99010B9C010BA9010BAF010C00010C48010C80010CB2,
   0x010CC0010CF2010CFA010D23010D30010D39010D40010D65010D6E010D85010D8E010D8F,
   0x010E60010E7E010E80010EA9010EAD010EAD010EB0010EB1010EC2010EC4010F00010F27,
   0x010F30010F45010F51010F59010F70010F81010F86010F89010FB0010FCB010FE0010FF6,
   0x01100001100001100201103701104701104D01105201106F011071011072011075011075,
   0x0110820110B20110B70110B80110BB0110BC0110BE0110C10110D00110E80110F00110F9,
   0x01110301112601112C01112C0111360111470111500111720111740111760111820111B5,
   0x0111BF0111BF0111C10111C80111CD0111CE0111D00111DF0111E10111F4011200011211,
   0x01121301122E01123201123301123801123D01123F011240011280011286011288011288,
   0x01128A01128D01128F01129D01129F0112A90112B00112DE0112E00112E20112F00112F9,
   0x01130201130301130501130C01130F01131001131301132801132A011330011332011333,
   0x01133501133901133D01133D01133F01133F01134101134401134701134801134B01134C,
   0x01135001135001135D01136301138001138901138B01138B01138E01138E0113900113B5,
   0x0113B70113B70113B90113BA0113CA0113CA0113CC0113CD0113D10113D10113D30113D5,
   0x0113D70113D801140001143701144001144101144501144501144701145B01145D01145D,
   0x01145F0114610114800114AF0114B10114B20114B90114B90114BB0114BC0114BE0114BE,
   0x0114C10114C10114C40114C70114D00114D90115800115AE0115B00115B10115B80115BB,
   0x0115BE0115BE0115C10115DB01160001163201163B01163C01163E01163E011641011644,
   0x01165001165901166001166C0116800116AA0116AC0116AC0116AE0116AF0116B80116B9,
   0x0116C00116C90116D00116E301170001171A01171E01171E011720011721011726011726,
   0x01173001174601180001182E01183801183801183B01183B0118A00118F20118FF011906,
   0x01190901190901190C01191301191501191601191801192F011931011935011937011938,
   0x01193F0119420119440119460119500119590119A00119A70119AA0119D30119DC0119DF,
   0x0119E10119E4011A00011A00011A0B011A32011A39011A3A011A3F011A46011A50011A50,
   0x011A57011A58011A5C011A89011A97011A97011A9A011AA2011AB0011AF8011B00011B09,
   0x011BC0011BE1011BF0011BF9011C00011C08011C0A011C2F011C3E011C3E011C40011C45,
   0x011C50011C6C011C70011C8F011CA9011CA9011CB1011CB1011CB4011CB4011D00011D06,
   0x011D08011D09011D0B011D30011D46011D46011D50011D59011D60011D65011D67011D68,
   0x011D6A011D8E011D93011D94011D96011D96011D98011D98011DA0011DA9011EE0011EF2,
   0x011EF5011EF8011F02011F10011F12011F35011F3E011F3F011F43011F59011FB0011FB0,
   0x011FC0011FF1011FFF01239901240001246E012470012474012480012543012F90012FF2,
   0x01300001342F0134410134460134600143FA01440001464601610001611D01612A01612C,
   0x016130016139016800016A38016A40016A5E016A60016A69016A6E016ABE016AC0016AC9,
   0x016AD0016AED016AF5016AF5016B00016B2F016B37016B45016B50016B59016B5B016B61,
   0x016B63016B77016B7D016B8F016D40016D79016E40016E9A016F00016F4A016F50016F87,
   0x016F93016F9F016FE0016FE30170000187F7018800018CD5018CFF018D0801AFF001AFF3,
   0x01AFF501AFFB01AFFD01AFFE01B00001B12201B13201B13201B15001B15201B15501B155,
   0x01B16401B16701B17001B2FB01BC0001BC6A01BC7001BC7C01BC8001BC8801BC9001BC99,
   0x01BC9C01BC9C01BC9F01BC9F01CC0001CCF901CD0001CEB301CF5001CFC301D00001D0F5,
   0x01D10001D12601D12901D16401D16A01D16C01D18301D18401D18C01D1A901D1AE01D1EA,
   0x01D20001D24101D24501D24501D2C001D2D301D2E001D2F301D30001D35601D36001D378,
   0x01D40001D45401D45601D49C01D49E01D49F01D4A201D4A201D4A501D4A601D4A901D4AC,
   0x01D4AE01D4B901D4BB01D4BB01D4BD01D4C301D4C501D50501D50701D50A01D50D01D514,
   0x01D51601D51C01D51E01D53901D53B01D53E01D54001D54401D54601D54601D54A01D550,
   0x01D55201D6A501D6A801D7CB01D7CE01D9FF01DA3701DA3A01DA6D01DA7401DA7601DA83,
   0x01DA8501DA8B01DF0001DF1E01DF2501DF2A01E03001E06D01E10001E12C01E13701E13D,
   0x01E14001E14901E14E01E14F01E29001E2AD01E2C001E2EB01E2F001E2F901E2FF01E2FF,
   0x01E4D001E4EB01E4F001E4F901E5D001E5ED01E5F001E5FA01E5FF01E5FF01E7E001E7E6,
   0x01E7E801E7EB01E7ED01E7EE01E7F001E7FE01E80001E8C401E8C701E8CF01E90001E943,
   0x01E94B01E94B01E95001E95901E95E01E95F01EC7101ECB401ED0101ED3D01EE0001EE03,
   0x01EE0501EE1F01EE2101EE2201EE2401EE2401EE2701EE2701EE2901EE3201EE3401EE37,
   0x01EE3901EE3901EE3B01EE3B01EE4201EE4201EE4701EE4701EE4901EE4901EE4B01EE4B,
   0x01EE4D01EE4F01EE5101EE5201EE5401EE5401EE5701EE5701EE5901EE5901EE5B01EE5B,
   0x01EE5D01EE5D01EE5F01EE5F01EE6101EE6201EE6401EE6401EE6701EE6A01EE6C01EE72,
   0x01EE7401EE7701EE7901EE7C01EE7E01EE7E01EE8001EE8901EE8B01EE9B01EEA101EEA3,
   0x01EEA501EEA901EEAB01EEBB01EEF001EEF101F00001F02B01F03001F09301F0A001F0AE,
   0x01F0B101F0BF01F0C101F0CF01F0D101F0F501F10001F1AD01F1E601F20201F21001F23B,
   0x01F24001F24801F25001F25101F26001F26501F30001F6D701F6DC01F6EC01F6F001F6FC,
   0x01F70001F77601F77B01F7D901F7E001F7EB01F7F001F7F001F80001F80B01F81001F847,
   0x01F85001F85901F86001F88701F89001F8AD01F8B001F8BB01F8C001F8C101F90001FA53,
   0x01FA6001FA6D01FA7001FA7C01FA8001FA8901FA8F01FAC601FACE01FADC01FADF01FAE9,
   0x01FAF001FAF801FB0001FB9201FB9401FBF902000002A6DF02A70002B73902B74002B81D,
   0x02B82002CEA102CEB002EBE002EBF002EE5D02F80002FA1D03000003134A0313500323AF]

def graphemeExtend : PackedRanges :=
  [0x00030000036F0004830004890005910005BD0005BF0005BF0005C10005C20005C40005C5,
   0x0005C70005C700061000061A00064B00065F0006700006700006D60006DC0006DF0006E4,
   0x0006E70006E80006EA0006ED00071100071100073000074A0007A60007B00007EB0007F3,
   0x0007FD0007FD00081600081900081B00082300082500082700082900082D00085900085B,
   0x00089700089F0008CA0008E10008E300090200093A00093A00093C00093C000941000948,
   0x00094D00094D0009510009570009620009630009810009810009BC0009BC0009BE0009BE,
   0x0009C10009C40009CD0009CD0009D70009D70009E20009E30009FE0009FE000A01000A02,
   0x000A3C000A3C000A41000A42000A47000A48000A4B000A4D000A51000A51000A70000A71,
   0x000A75000A75000A81000A82000ABC000ABC000AC1000AC5000AC7000AC8000ACD000ACD,
   0x000AE2000AE3000AFA000AFF000B01000B01000B3C000B3C000B3E000B3F000B41000B44,
   0x000B4D000B4D000B55000B57000B62000B63000B82000B82000BBE000BBE000BC0000BC0,
   0x000BCD000BCD000BD7000BD7000C00000C00000C04000C04000C3C000C3C000C3E000C40,
   0x000C46000C48000C4A000C4D000C55000C56000C62000C63000C81000C81000CBC000CBC,
   0x000CBF000CC0000CC2000CC2000CC6000CC8000CCA000CCD000CD5000CD6000CE2000CE3,
   0x000D00000D01000D3B000D3C000D3E000D3E000D41000D44000D4D000D4D000D57000D57,
   0x000D62000D63000D81000D81000DCA000DCA000DCF000DCF000DD2000DD4000DD6000DD6,
   0x000DDF000DDF000E31000E31000E34000E3A000E47000E4E000EB1000EB1000EB4000EBC,
   0x000EC8000ECE000F18000F19000F35000F35000F37000F37000F39000F39000F71000F7E,
   0x000F80000F84000F86000F87000F8D000F97000F99000FBC000FC6000FC600102D001030,
   0x00103200103700103900103A00103D00103E00105800105900105E001060001071001074,
   0x00108200108200108500108600108D00108D00109D00109D00135D00135F001712001715,
   0x0017320017340017520017530017720017730017B40017B50017B70017BD0017C60017C6,
   0x0017C90017D30017DD0017DD00180B00180D00180F00180F0018850018860018A90018A9,
   0x00192000192200192700192800193200193200193900193B001A17001A18001A1B001A1B,
   0x001A56001A56001A58001A5E001A60001A60001A62001A62001A65001A6C001A73001A7C,
   0x001A7F001A7F001AB0001ACE001B00001B03001B34001B3D001B42001B44001B6B001B73,
   0x001B80001B81001BA2001BA5001BA8001BAD001BE6001BE6001BE8001BE9001BED001BED,
   0x001BEF001BF3001C2C001C33001C36001C37001CD0001CD2001CD4001CE0001CE2001CE8,
   0x001CED001CED001CF4001CF4001CF8001CF9001DC0001DFF00200C00200C0020D00020F0,
   0x002CEF002CF1002D7F002D7F002DE0002DFF00302A00302F00309900309A00A66F00A672,
   0x00A67400A67D00A69E00A69F00A6F000A6F100A80200A80200A80600A80600A80B00A80B,
   0x00A82500A82600A82C00A82C00A8C400A8C500A8E000A8F100A8FF00A8FF00A92600A92D,
   0x00A94700A95100A95300A95300A98000A98200A9B300A9B300A9B600A9B900A9BC00A9BD,
   0x00A9C000A9C000A9E500A9E500AA2900AA2E00AA3100AA3200AA3500AA3600AA4300AA43,
   0x00AA4C00AA4C00AA7C00AA7C00AAB000AAB000AAB200AAB400AAB700AAB800AABE00AABF,
   0x00AAC100AAC100AAEC00AAED00AAF600AAF600ABE500ABE500ABE800ABE800ABED00ABED,
   0x00FB1E00FB1E00FE0000FE0F00FE2000FE2F00FF9E00FF9F0101FD0101FD0102E00102E0,
   0x01037601037A010A01010A03010A05010A06010A0C010A0F010A38010A3A010A3F010A3F,
   0x010AE5010AE6010D24010D27010D69010D6D010EAB010EAC010EFC010EFF010F46010F50,
   0x010F82010F8501100101100101103801104601107001107001107301107401107F011081,
   0x0110B30110B60110B90110BA0110C20110C201110001110201112701112B01112D011134,
   0x0111730111730111800111810111B60111BE0111C00111C00111C90111CC0111CF0111CF,
   0x01122F01123101123401123701123E01123E0112410112410112DF0112DF0112E30112EA,
   0x01130001130101133B01133C01133E01133E01134001134001134D01134D011357011357,
   0x01136601136C0113700113740113B80113B80113BB0113C00113C20113C20113C50113C5,
   0x0113C70113C90113CE0113D00113D20113D20113E10113E201143801143F011442011444,
   0x01144601144601145E01145E0114B00114B00114B30114B80114BA0114BA0114BD0114BD,
   0x0114BF0114C00114C20114C30115AF0115AF0115B20115B50115BC0115BD0115BF0115C0,
   0x0115DC0115DD01163301163A01163D01163D01163F0116400116AB0116AB0116AD0116AD,
   0x0116B00116B701171D01171D01171F01171F01172201172501172701172B01182F011837,
   0x01183901183A01193001193001193B01193E0119430119430119D40119D70119DA0119DB,
   0x0119E00119E0011A01011A0A011A33011A38011A3B011A3E011A47011A47011A51011A56,
   0x011A59011A5B011A8A011A96011A98011A99011C30011C36011C38011C3D011C3F011C3F,
   0x011C92011CA7011CAA011CB0011CB2011CB3011CB5011CB6011D31011D36011D3A011D3A,
   0x011D3C011D3D011D3F011D45011D47011D47011D90011D91011D95011D95011D97011D97,
   0x011EF3011EF4011F00011F01011F36011F3A011F40011F42011F5A011F5A013440013440,
   0x01344701345501611E01612901612D01612F016AF0016AF4016B30016B36016F4F016F4F,
   0x016F8F016F92016FE4016FE4016FF0016FF101BC9D01BC9E01CF0001CF2D01CF3001CF46,
   0x01D16501D16901D16D01D17201D17B01D18201D18501D18B01D1AA01D1AD01D24201D244,
   0x01DA0001DA3601DA3B01DA6C01DA7501DA7501DA8401DA8401DA9B01DA9F01DAA101DAAF,
   0x01E00001E00601E00801E01801E01B01E02101E02301E02401E02601E02A01E08F01E08F,
   0x01E13001E13601E2AE01E2AE01E2EC01E2EF01E4EC01E4EF01E5EE01E5EF01E8D001E8D6,
   0x01E94401E94A0E00200E007F0E01000E01EF]

def graphemeLink : PackedRanges :=
  [0x00094D00094D0009CD0009CD000A4D000A4D000ACD000ACD000B4D000B4D000BCD000BCD,
   0x000C4D000C4D000CCD000CCD000D3B000D3C000D4D000D4D000DCA000DCA000E3A000E3A,
   0x000EBA000EBA000F84000F8400103900103A0017140017150017340017340017D20017D2,
   0x001A60001A60001B44001B44001BAA001BAB001BF2001BF3002D7F002D7F00A80600A806,
   0x00A82C00A82C00A8C400A8C400A95300A95300A9C000A9C000AAF600AAF600ABED00ABED,
   0x010A3F010A3F01104601104601107001107001107F01107F0110B90110B9011133011134,
   0x0111C00111C00112350112350112EA0112EA01134D01134D0113CE0113D0011442011442,
   0x0114C20114C20115BF0115BF01163F01163F0116B60116B601172B01172B011839011839,
   0x01193D01193E0119E00119E0011A34011A34011A47011A47011A99011A99011C3F011C3F,
   0x011D44011D45011D97011D97011F41011F4201612F01612F]

def hexDigit : PackedRanges :=
  [0x00003000003900004100004600006100006600FF1000FF1900FF2100FF2600FF4100FF46]

def hyphen : PackedRanges :=
  [0x00002D00002D0000AD0000AD00058A00058A001806001806002010002011002E17002E17,
   0x0030FB0030FB00FE6300FE6300FF0D00FF0D00FF6500FF65]

def idsBinaryOperator : PackedRanges :=
  [0x002FF0002FF1002FF4002FFD0031EF0031EF]

def idsTrinaryOperator : PackedRanges :=
  [0x002FF2002FF3]

def idsUnaryOperator : PackedRanges :=
  [0x002FFE002FFF]

def ideographic : PackedRanges :=
  [0x00300600300700302100302900303800303A003400004DBF004E00009FFF00F90000FA6D,
   0x00FA7000FAD9016FE4016FE40170000187F7018800018CD5018CFF018D0801B17001B2FB,
   0x02000002A6DF02A70002B73902B74002B81D02B82002CEA102CEB002EBE002EBF002EE5D,
   0x02F80002FA1D03000003134A0313500323AF]

def joinControl : PackedRanges :=
  [0x00200C00200D]

def logicalOrderException : PackedRanges :=
  [0x000E40000E44000EC0000EC40019B50019B70019BA0019BA00AAB500AAB600AAB900AAB9,
   0x00AABB00AABC]

def math : PackedRanges :=
  [0x00002B00002B00003C00003E00005E00005E00007C00007C00007E00007E0000AC0000AC,
   0x0000B10000B10000D70000D70000F70000F70003D00003D20003D50003D50003F00003F1,
   0x0003F40003F6000606000608002016002016002032002034002040002040002044002044,
   0x00205200205200206100206400207A00207E00208A00208E0020D00020DC0020E10020E1,
   0x0020E50020E60020EB0020EF00210200210200210700210700210A002113002115002115,
   0x00211800211D00212400212400212800212900212C00212D00212F002131002133002138,
   0x00213C00214900214B00214B0021900021A70021A90021AE0021B00021B10021B60021B7,
   0x0021BC0021DB0021DD0021DD0021E40021E50021F40022FF00230800230B002320002321,
   0x00237C00237C00239B0023B50023B70023B70023D00023D00023DC0023E20025A00025A1,
   0x0025AE0025B70025BC0025C10025C60025C70025CA0025CB0025CF0025D30025E20025E2,
   0x0025E40025E40025E70025EC0025F80025FF002605002606002640002640002642002642,
   0x00266000266300266D00266F0027C00027FF002900002AFF002B30002B44002B47002B4C,
   0x00FB2900FB2900FE6100FE6600FE6800FE6800FF0B00FF0B00FF1C00FF1E00FF3C00FF3C,
   0x00FF3E00FF3E00FF5C00FF5C00FF5E00FF5E00FFE200FFE200FFE900FFEC010D8E010D8F,
   0x01D40001D45401D45601D49C01D49E01D49F01D4A201D4A201D4A501D4A601D4A901D4AC,
   0x01D4AE01D4B901D4BB01D4BB01D4BD01D4C301D4C501D50501D50701D50A01D50D01D514,
   0x01D51601D51C01D51E01D53901D53B01D53E01D54001D54401D54601D54601D54A01D550,
   0x01D55201D6A501D6A801D7CB01D7CE01D7FF01EE0001EE0301EE0501EE1F01EE2101EE22,
   0x01EE2401EE2401EE2701EE2701EE2901EE3201EE3401EE3701EE3901EE3901EE3B01EE3B,
   0x01EE4201EE4201EE4701EE4701EE4901EE4901EE4B01EE4B01EE4D01EE4F01EE5101EE52,
   0x01EE5401EE5401EE5701EE5701EE5901EE5901EE5B01EE5B01EE5D01EE5D01EE5F01EE5F,
   0x01EE6101EE6201EE6401EE6401EE6701EE6A01EE6C01EE7201EE7401EE7701EE7901EE7C,
   0x01EE7E01EE7E01EE8001EE8901EE8B01EE9B01EEA101EEA301EEA501EEA901EEAB01EEBB,
   0x01EEF001EEF1]

def modifierCombiningMark : PackedRanges :=
  [0x0006540006550006580006580006DC0006DC0006E30006E30006E70006E80008CA0008CB,
   0x0008CD0008CF0008D30008D30008F30008F3]

def noncharacterCodePoint : PackedRanges :=
  [0x00FDD000FDEF00FFFE00FFFF01FFFE01FFFF02FFFE02FFFF03FFFE03FFFF04FFFE04FFFF,
   0x05FFFE05FFFF06FFFE06FFFF07FFFE07FFFF08FFFE08FFFF09FFFE09FFFF0AFFFE0AFFFF,
   0x0BFFFE0BFFFF0CFFFE0CFFFF0DFFFE0DFFFF0EFFFE0EFFFF0FFFFE0FFFFF10FFFE10FFFF]

def prependedConcatenationMark : PackedRanges :=
  [0x0006000006050006DD0006DD00070F00070F0008900008910008E20008E20110BD0110BD,
   0x0110CD0110CD]

def quotationMark : PackedRanges :=
  [0x0000220000220000270000270000AB0000AB0000BB0000BB00201800201F00203900203A,
   0x002E42002E4200300C00300F00301D00301F00FE4100FE4400FF0200FF0200FF0700FF07,
   0x00FF6200FF63]

def radical : PackedRanges :=
  [0x002E80002E99002E9B002EF3002F00002FD5]

def sentenceTerminal : PackedRanges :=
  [0x00002100002100002E00002E00003F00003F00058900058900061D00061F0006D40006D4,
   0x0007000007020007F90007F900083700083700083900083900083D00083E000964000965,
   0x00104A00104B00136200136200136700136800166E00166E0017350017360017D40017D5,
   0x001803001803001809001809001944001945001AA8001AAB001B4E001B4F001B5A001B5B,
   0x001B5E001B5F001B7D001B7F001C3B001C3C001C7E001C7F00202400202400203C00203D,
   0x002047002049002CF9002CFB002E2E002E2E002E3C002E3C002E53002E54003002003002,
   0x00A4FF00A4FF00A60E00A60F00A6F300A6F300A6F700A6F700A87600A87700A8CE00A8CF,
   0x00A92F00A92F00A9C800A9C900AA5D00AA5F00AAF000AAF100ABEB00ABEB00FE1200FE12,
   0x00FE1500FE1600FE5200FE5200FE5600FE5700FF0100FF0100FF0E00FF0E00FF1F00FF1F,
   0x00FF6100FF61010A56010A57010F55010F59010F86010F890110470110480110BE0110C1,
   0x0111410111430111C50111C60111CD0111CD0111DE0111DF01123801123901123B01123C,
   0x0112A90112A90113D40113D501144B01144C0115C20115C30115C90115D7011641011642,
   0x01173C01173E011944011944011946011946011A42011A43011A9B011A9C011C41011C42,
   0x011EF7011EF8011F43011F44016A6E016A6F016AF5016AF5016B37016B38016B44016B44,
   0x016D6E016D6F016E98016E9801BC9F01BC9F01DA8801DA88]

def terminalPunctuation : PackedRanges :=
  [0x00002100002100002C00002C00002E00002E00003A00003B00003F00003F00037E00037E,
   0x0003870003870005890005890005C30005C300060C00060C00061B00061B00061D00061F,
   0x0006D40006D400070000070A00070C00070C0007F80007F900083000083500083700083E,
   0x00085E00085E000964000965000E5A000E5B000F08000F08000F0D000F1200104A00104B,
   0x00136100136800166E00166E0016EB0016ED0017350017360017D40017D60017DA0017DA,
   0x001802001805001808001809001944001945001AA8001AAB001B4E001B4F001B5A001B5B,
   0x001B5D001B5F001B7D001B7F001C3B001C3F001C7E001C7F00202400202400203C00203D,
   0x002047002049002CF9002CFB002E2E002E2E002E3C002E3C002E41002E41002E4C002E4C,
   0x002E4E002E4F002E53002E5400300100300200A4FE00A4FF00A60D00A60F00A6F300A6F7,
   0x00A87600A87700A8CE00A8CF00A92F00A92F00A9C700A9C900AA5D00AA5F00AADF00AADF,
   0x00AAF000AAF100ABEB00ABEB00FE1200FE1200FE1500FE1600FE5000FE5200FE5400FE57,
   0x00FF0100FF0100FF0C00FF0C00FF0E00FF0E00FF1A00FF1B00FF1F00FF1F00FF6100FF61,
   0x00FF6400FF6401039F01039F0103D00103D001085701085701091F01091F010A56010A57,
   0x010AF0010AF5010B3A010B3F010B99010B9C010F55010F59010F86010F8901104701104D,
   0x0110BE0110C10111410111430111C50111C60111CD0111CD0111DE0111DF01123801123C,
   0x0112A90112A90113D40113D501144B01144D01145A01145B0115C20115C50115C90115D7,
   0x01164101164201173C01173E011944011944011946011946011A42011A43011A9B011A9C,
   0x011AA1011AA2011C41011C43011C71011C71011EF7011EF8011F43011F44012470012474,
   0x016A6E016A6F016AF5016AF5016B37016B39016B44016B44016D6E016D6F016E97016E98,
   0x01BC9F01BC9F01DA8701DA8A]

def unifiedIdeograph : PackedRanges :=
  [0x003400004DBF004E00009FFF00FA0E00FA0F00FA1100FA1100FA1300FA1400FA1F00FA1F,
   0x00FA2100FA2100FA2300FA2400FA2700FA2902000002A6DF02A70002B73902B74002B81D,
   0x02B82002CEA102CEB002EBE002EBF002EE5D03000003134A0313500323AF]

def variationSelector : PackedRanges :=
  [0x00180B00180D00180F00180F00FE0000FE0F0E01000E01EF]

def whiteSpace : PackedRanges :=
  [0x00000900000D0000200000200000850000850000A00000A000168000168000200000200A,
   0x00202800202900202F00202F00205F00205F003000003000]

/-- The tables of this module under the loosely matched names of their properties. -/
def byName : List (List String × PackedRanges) := [
  (["ahex", "asciihexdigit"], asciiHexDigit),
  (["bidic", "bidicontrol"], bidiControl),
  (["bidim", "bidimirrored"], bidiMirrored),
  (["dash"], dash),
  (["di", "defaultignorablecodepoint"], defaultIgnorableCodePoint),
  (["dep", "deprecated"], deprecated),
  (["dia", "diacritic"], diacritic),
  (["ext", "extender"], extender),
  (["grbase", "graphemebase"], graphemeBase),
  (["grext", "graphemeextend"], graphemeExtend),
  (["grlink", "graphemelink"], graphemeLink),
  (["hex", "hexdigit"], hexDigit),
  (["hyphen"], hyphen),
  (["idsb", "idsbinaryoperator"], idsBinaryOperator),
  (["idst", "idstrinaryoperator"], idsTrinaryOperator),
  (["idsu", "idsunaryoperator"], idsUnaryOperator),
  (["ideo", "ideographic"], ideographic),
  (["joinc", "joincontrol"], joinControl),
  (["loe", "logicalorderexception"], logicalOrderException),
  (["math"], math),
  (["mcm", "modifiercombiningmark"], modifierCombiningMark),
  (["nchar", "noncharactercodepoint"], noncharacterCodePoint),
  (["pcm", "prependedconcatenationmark"], prependedConcatenationMark),
  (["qmark", "quotationmark"], quotationMark),
  (["radical"], radical),
  (["sterm", "sentenceterminal"], sentenceTerminal),
  (["term", "terminalpunctuation"], terminalPunctuation),
  (["uideo", "unifiedideograph"], unifiedIdeograph),
  (["vs", "variationselector"], variationSelector),
  (["space", "wspace", "whitespace"], whiteSpace)]

end Properties

end Unicode

end Scopelight
