import Scopelight.Unicode.Ranges

/-!
# Ages

The code points that each version of the standard added, as packed range tables.
-/

namespace Scopelight

namespace Unicode

namespace Age

def version1Dot1 : PackedRanges :=
  [0x0000000001F50001FA0002170002500002A80002B00002DE0002E00002E9000300000345,
   0x00036000036100037400037500037A00037A00037E00037E00038400038A00038C00038C,
   0x00038E0003A10003A30003CE0003D00003D60003DA0003DA0003DC0003DC0003DE0003DE,
   0x0003E00003E00003E20003F300040100040C00040E00044F00045100045C00045E000486,
   0x0004900004C40004C70004C80004CB0004CC0004D00004EB0004EE0004F50004F80004F9,
   0x00053100055600055900055F0005610005870005890005890005B00005B90005BB0005C3,
   0x0005D00005EA0005F00005F400060C00060C00061B00061B00061F00061F00062100063A,
   0x00064000065200066000066D0006700006B70006BA0006BE0006C00006CE0006D00006ED,
   0x0006F00006F900090100090300090500093900093C00094D000950000954000958000970,
   0x00098100098300098500098C00098F0009900009930009A80009AA0009B00009B20009B2,
   0x0009B60009B90009BC0009BC0009BE0009C40009C70009C80009CB0009CD0009D70009D7,
   0x0009DC0009DD0009DF0009E30009E60009FA000A02000A02000A05000A0A000A0F000A10,
   0x000A13000A28000A2A000A30000A32000A33000A35000A36000A38000A39000A3C000A3C,
   0x000A3E000A42000A47000A48000A4B000A4D000A59000A5C000A5E000A5E000A66000A74,
   0x000A81000A83000A85000A8B000A8D000A8D000A8F000A91000A93000AA8000AAA000AB0,
   0x000AB2000AB3000AB5000AB9000ABC000AC5000AC7000AC9000ACB000ACD000AD0000AD0,
   0x000AE0000AE0000AE6000AEF000B01000B03000B05000B0C000B0F000B10000B13000B28,
   0x000B2A000B30000B32000B33000B36000B39000B3C000B43000B47000B48000B4B000B4D,
   0x000B56000B57000B5C000B5D000B5F000B61000B66000B70000B82000B83000B85000B8A,
   0x000B8E000B90000B92000B95000B99000B9A000B9C000B9C000B9E000B9F000BA3000BA4,
   0x000BA8000BAA000BAE000BB5000BB7000BB9000BBE000BC2000BC6000BC8000BCA000BCD,
   0x000BD7000BD7000BE7000BF2000C01000C03000C05000C0C000C0E000C10000C12000C28,
   0x000C2A000C33000C35000C39000C3E000C44000C46000C48000C4A000C4D000C55000C56,
   0x000C60000C61000C66000C6F000C82000C83000C85000C8C000C8E000C90000C92000CA8,
   0x000CAA000CB3000CB5000CB9000CBE000CC4000CC6000CC8000CCA000CCD000CD5000CD6,
   0x000CDE000CDE000CE0000CE1000CE6000CEF000D02000D03000D05000D0C000D0E000D10,
   0x000D12000D28000D2A000D39000D3E000D43000D46000D48000D4A000D4D000D57000D57,
   0x000D60000D61000D66000D6F000E01000E3A000E3F000E5B000E81000E82000E84000E84,
   0x000E87000E88000E8A000E8A000E8D000E8D000E94000E97000E99000E9F000EA1000EA3,
   0x000EA5000EA5000EA7000EA7000EAA000EAB000EAD000EB9000EBB000EBD000EC0000EC4,
   0x000EC6000EC6000EC8000ECD000ED0000ED9000EDC000EDD0010A00010C50010D00010F6,
   0x0010FB0010FB00110000115900115F0011A20011A80011F9001E00001E9A001EA0001EF9,
   0x001F00001F15001F18001F1D001F20001F45001F48001F4D001F50001F57001F59001F59,
   0x001F5B001F5B001F5D001F5D001F5F001F7D001F80001FB4001FB6001FC4001FC6001FD3,
   0x001FD6001FDB001FDD001FEF001FF2001FF4001FF6001FFE00200000202E002030002046,
   0x00206A00207000207400208E0020A00020AA0020D00020E1002100002138002153002182,
   0x0021900021EA0022000022F100230000230000230200237A00240000242400244000244A,
   0x0024600024EA0025000025950025A00025EF00260000261300261A00266F002701002704,
   0x00270600270900270C00272700272900274B00274D00274D00274F002752002756002756,
   0x00275800275E0027610027670027760027940027980027AF0027B10027BE003000003037,
   0x00303F00303F00304100309400309900309E0030A10030FE00310500312C00313100318E,
   0x00319000319F00320000321C00322000324300326000327B00327F0032B00032C00032CB,
   0x0032D00032FE00330000337600337B0033DD0033E00033FE004E00009FA500E00000FA2D,
   0x00FB0000FB0600FB1300FB1700FB1E00FB3600FB3800FB3C00FB3E00FB3E00FB4000FB41,
   0x00FB4300FB4400FB4600FBB100FBD300FD3F00FD5000FD8F00FD9200FDC700FDF000FDFB,
   0x00FE2000FE2300FE3000FE4400FE4900FE5200FE5400FE6600FE6800FE6B00FE7000FE72,
   0x00FE7400FE7400FE7600FEFC00FEFF00FEFF00FF0100FF5E00FF6100FFBE00FFC200FFC7,
   0x00FFCA00FFCF00FFD200FFD700FFDA00FFDC00FFE000FFE600FFE800FFEE00FFFD00FFFF]

def version2Dot0 : PackedRanges :=
  [0x0005910005A10005A30005AF0005C40005C4000F00000F47000F49000F69000F71000F8B,
   0x000F90000F95000F97000F97000F99000FAD000FB1000FB7000FB9000FB9001E9B001E9B,
   0x0020AB0020AB00AC0000D7A301FFFE01FFFF02FFFE02FFFF03FFFE03FFFF04FFFE04FFFF,
   0x05FFFE05FFFF06FFFE06FFFF07FFFE07FFFF08FFFE08FFFF09FFFE09FFFF0AFFFE0AFFFF,
   0x0BFFFE0BFFFF0CFFFE0CFFFF0DFFFE0DFFFF0EFFFE10FFFF]

def version2Dot1 : PackedRanges :=
  [0x0020AC0020AC00FFFC00FFFC]

def version3Dot0 : PackedRanges :=
  [0x0001F60001F900021800021F0002220002330002A90002AD0002DF0002DF0002EA0002EE,
   0x00034600034E0003620003620003D70003D70003DB0003DB0003DD0003DD0003DF0003DF,
   0x0003E10003E100040000040000040D00040D00045000045000045D00045D000488000489,
   0x00048C00048F0004EC0004ED00058A00058A0006530006550006B80006B90006BF0006BF,
   0x0006CF0006CF0006FA0006FE00070000070D00070F00072C00073000074A0007800007B0,
   0x000D82000D83000D85000D96000D9A000DB1000DB3000DBB000DBD000DBD000DC0000DC6,
   0x000DCA000DCA000DCF000DD4000DD6000DD6000DD8000DDF000DF2000DF4000F6A000F6A,
   0x000F96000F96000FAE000FB0000FB8000FB8000FBA000FBC000FBE000FCC000FCF000FCF,
   0x00100000102100102300102700102900102A00102C001032001036001039001040001059,
   0x00120000120600120800124600124800124800124A00124D001250001256001258001258,
   0x00125A00125D00126000128600128800128800128A00128D0012900012AE0012B00012B0,
   0x0012B20012B50012B80012BE0012C00012C00012C20012C50012C80012CE0012D00012D6,
   0x0012D80012EE0012F000130E00131000131000131200131500131800131E001320001346,
   0x00134800135A00136100137C0013A00013F400140100167600168000169C0016A00016F0,
   0x0017800017DC0017E00017E900180000180E0018100018190018200018770018800018A9,
   0x00202F00202F00204800204D0020AD0020AF0020E20020E300213900213A002183002183,
   0x0021EB0021F300230100230100237B00237B00237D00239A0024250024260025F00025F7,
   0x0026190026190026700026710028000028FF002E80002E99002E9B002EF3002F00002FD5,
   0x002FF0002FFB00303800303A00303E00303E0031A00031B7003400004DB500A00000A48C,
   0x00A49000A4A100A4A400A4B300A4B500A4C000A4C200A4C400A4C600A4C600FB1D00FB1D,
   0x00FFF900FFFB]

def version3Dot1 : PackedRanges :=
  [0x0003F40003F500FDD000FDEF01030001031E01032001032301033001034A010400010425,
   0x01042801044D01D00001D0F501D10001D12601D12A01D1DD01D40001D45401D45601D49C,
   0x01D49E01D49F01D4A201D4A201D4A501D4A601D4A901D4AC01D4AE01D4B901D4BB01D4BB,
   0x01D4BD01D4C001D4C201D4C301D4C501D50501D50701D50A01D50D01D51401D51601D51C,
   0x01D51E01D53901D53B01D53E01D54001D54401D54601D54601D54A01D55001D55201D6A3,
   0x01D6A801D7C901D7CE01D7FF02000002A6D602F80002FA1D0E00010E00010E00200E007F]

def version3Dot2 : PackedRanges :=
  [0x00022000022000034F00034F00036300036F0003D80003D90003F60003F600048A00048B,
   0x0004C50004C60004C90004CA0004CD0004CE00050000050F00066E00066F0007B10007B1,
   0x0010F70010F800170000170C00170E00171400172000173600174000175300176000176C,
   0x00176E00177000177200177300204700204700204E00205200205700205700205F002063,
   0x0020710020710020B00020B10020E40020EA00213D00214B0021F40021FF0022F20022FF,
   0x00237C00237C00239B0023CE0024EB0024FE00259600259F0025F80025FF002616002617,
   0x00267200267D0026800026890027680027750027D00027EB0027F00027FF002900002AFF,
   0x00303B00303D00309500309600309F0030A00030FF0030FF0031F00031FF00325100325F,
   0x0032B10032BF00A4A200A4A300A4B400A4B400A4C100A4C100A4C500A4C500FA3000FA6A,
   0x00FDFC00FDFC00FE0000FE0F00FE4500FE4600FE7300FE7300FF5F00FF60]

def version4Dot0 : PackedRanges :=
  [0x0002210002210002340002360002AE0002AF0002EF0002FF00035000035700035D00035F,
   0x0003F70003FB00060000060300060D0006150006560006580006EE0006EF0006FF0006FF,
   0x00072D00072F00074D00074F0009040009040009BD0009BD000A01000A01000A03000A03,
   0x000A8C000A8C000AE1000AE3000AF1000AF1000B35000B35000B71000B71000BF3000BFA,
   0x000CBC000CBD0017DD0017DD0017F00017F900190000191C00192000192B00193000193B,
   0x00194000194000194400196D0019700019740019E00019FF001D00001D6B002053002054,
   0x00213B00213B0023CF0023D00024FF0024FF00261400261500268A0026910026A00026A1,
   0x002B00002B0D00321D00321E00325000325000327C00327D0032CC0032CF00337700337A,
   0x0033DE0033DF0033FF0033FF004DC0004DFF00FDFD00FDFD00FE4700FE4801000001000B,
   0x01000D01002601002801003A01003C01003D01003F01004D01005001005D0100800100FA,
   0x01010001010201010701013301013701013F01038001039D01039F01039F010426010427,
   0x01044E01049D0104A00104A901080001080501080801080801080A010835010837010838,
   0x01083C01083C01083F01083F01D30001D35601D4C101D4C10E01000E01EF]

def version4Dot1 : PackedRanges :=
  [0x00023700024100035800035C0003FC0003FF0004F60004F70005A20005A20005C50005C7,
   0x00060B00060B00061E00061E00065900065E00075000076D00097D00097D0009CE0009CE,
   0x000BB6000BB6000BE6000BE6000FD0000FD10010F90010FA0010FC0010FC001207001207,
   0x0012470012470012870012870012AF0012AF0012CF0012CF0012EF0012EF00130F00130F,
   0x00131F00131F00134700134700135F0013600013800013990019800019A90019B00019C9,
   0x0019D00019D90019DE0019DF001A00001A1B001A1E001A1F001D6C001DC3002055002056,
   0x00205800205E0020900020940020B20020B50020EB0020EB00213C00213C00214C00214C,
   0x0023D10023DB00261800261800267E00267F00269200269C0026A20026B10027C00027C6,
   0x002B0E002B13002C00002C2E002C30002C5E002C80002CEA002CF9002D25002D30002D65,
   0x002D6F002D6F002D80002D96002DA0002DA6002DA8002DAE002DB0002DB6002DB8002DBE,
   0x002DC0002DC6002DC8002DCE002DD0002DD6002DD8002DDE002E00002E17002E1C002E1D,
   0x0031C00031CF00327E00327E009FA6009FBB00A70000A71600A80000A82B00FA7000FAD9,
   0x00FE1000FE1901014001018A0103A00103C30103C80103D5010A00010A03010A05010A06,
   0x010A0C010A13010A15010A17010A19010A33010A38010A3A010A3F010A47010A50010A58,
   0x01D20001D24501D6A401D6A5]

def version5Dot0 : PackedRanges :=
  [0x00024200024F00037B00037D0004CF0004CF0004FA0004FF0005100005130005BA0005BA,
   0x0007C00007FA00097B00097C00097E00097F000CE2000CE3000CF1000CF2001B00001B4B,
   0x001B50001B7C001DC4001DCA001DFE001DFF0020EC0020EF00214D00214E002184002184,
   0x0023DC0023E70026B20026B20027C70027CA002B14002B1A002B20002B23002C60002C6C,
   0x002C74002C7700A71700A71A00A72000A72100A84000A87701090001091901091F01091F,
   0x01200001236E01240001246201247001247301D36001D37101D7CA01D7CB]

def version5Dot1 : PackedRanges :=
  [0x0003700003730003760003770003CF0003CF00048700048700051400052300060600060A,
   0x00061600061A00063B00063F00076E00077F000971000972000A51000A51000A75000A75,
   0x000B44000B44000B62000B63000BD0000BD0000C3D000C3D000C58000C59000C62000C63,
   0x000C78000C7F000D3D000D3D000D44000D44000D62000D63000D70000D75000D79000D7F,
   0x000F6B000F6C000FCE000FCE000FD2000FD400102200102200102800102800102B00102B,
   0x00103300103500103A00103F00105A00109900109E00109F0018AA0018AA001B80001BAA,
   0x001BAE001BB9001C00001C37001C3B001C49001C4D001C7F001DCB001DE6001E9C001E9F,
   0x001EFA001EFF0020640020640020F00020F000214F00214F00218500218800269D00269D,
   0x0026B30026BC0026C00026C30027CC0027CC0027EC0027EF002B1B002B1F002B24002B4C,
   0x002B50002B54002C6D002C6F002C71002C73002C78002C7D002DE0002DFF002E18002E1B,
   0x002E1E002E3000312D00312D0031D00031E3009FBC009FC300A50000A62B00A64000A65F,
   0x00A66200A67300A67C00A69700A71B00A71F00A72200A78C00A7FB00A7FF00A88000A8C4,
   0x00A8CE00A8D900A90000A95300A95F00A95F00AA0000AA3600AA4000AA4D00AA5000AA59,
   0x00AA5C00AA5F00FE2400FE2601019001019B0101D00101FD01028001029C0102A00102D0,
   0x01092001093901093F01093F01D12901D12901F00001F02B01F03001F093]

def version5Dot2 : PackedRanges :=
  [0x00052400052500080000082D00083000083E00090000090000094E00094E000955000955,
   0x00097900097A0009FB0009FB000FD5000FD800109A00109D00115A00115E0011A30011A7,
   0x0011FA0011FF00140000140000167700167F0018B00018F50019AA0019AB0019DA0019DA,
   0x001A20001A5E001A60001A7C001A7F001A89001A90001A99001AA0001AAD001CD0001CF2,
   0x001DFD001DFD0020B60020B80021500021520021890021890023E80023E800269E00269F,
   0x0026BD0026BF0026C40026CD0026CF0026E10026E30026E30026E80026FF002757002757,
   0x002B55002B59002C70002C70002C7E002C7F002CEB002CF1002E31002E3100324400324F,
   0x009FC4009FCB00A4D000A4FF00A6A000A6F700A83000A83900A8E000A8FB00A96000A97C,
   0x00A98000A9CD00A9CF00A9D900A9DE00A9DF00AA6000AA7B00AA8000AAC200AADB00AADF,
   0x00ABC000ABED00ABF000ABF900D7B000D7C600D7CB00D7FB00FA6B00FA6D010840010855,
   0x01085701085F01091A01091B010A60010A7F010B00010B35010B39010B55010B58010B72,
   0x010B78010B7F010C00010C48010E60010E7E0110800110C101300001342E01F10001F10A,
   0x01F11001F12E01F13101F13101F13D01F13D01F13F01F13F01F14201F14201F14601F146,
   0x01F14A01F14E01F15701F15701F15F01F15F01F17901F17901F17B01F17C01F17F01F17F,
   0x01F18A01F18D01F19001F19001F20001F20001F21001F23101F24001F24802A70002B734]

def version6Dot0 : PackedRanges :=
  [0x00052600052700062000062000065F00065F00084000085B00085E00085E00093A00093B,
   0x00094F00094F000956000957000973000977000B72000B77000D29000D29000D3A000D3A,
   0x000D4E000D4E000F8C000F8F000FD9000FDA00135D00135E001BC0001BF3001BFC001BFF,
   0x001DFC001DFC00209500209C0020B90020B90023E90023F30026CE0026CE0026E20026E2,
   0x0026E40026E700270500270500270A00270B00272800272800274C00274C00274E00274E,
   0x00275300275500275F0027600027950027970027B00027B00027BF0027BF0027CE0027CF,
   0x002D70002D70002D7F002D7F0031B80031BA00A66000A66100A78D00A78E00A79000A791,
   0x00A7A000A7A900A7FA00A7FA00AB0100AB0600AB0900AB0E00AB1100AB1600AB2000AB26,
   0x00AB2800AB2E00FBB200FBC101100001104D01105201106F016800016A3801B00001B001,
   0x01F0A001F0AE01F0B101F0BE01F0C101F0CF01F0D101F0DF01F13001F13001F13201F13C,
   0x01F13E01F13E01F14001F14101F14301F14501F14701F14901F14F01F15601F15801F15E,
   0x01F16001F16901F17001F17801F17A01F17A01F17D01F17E01F18001F18901F18E01F18F,
   0x01F19101F19A01F1E601F1FF01F20101F20201F23201F23A01F25001F25101F30001F320,
   0x01F33001F33501F33701F37C01F38001F39301F3A001F3C401F3C601F3CA01F3E001F3F0,
   0x01F40001F43E01F44001F44001F44201F4F701F4F901F4FC01F50001F53D01F55001F567,
   0x01F5FB01F5FF01F60101F61001F61201F61401F61601F61601F61801F61801F61A01F61A,
   0x01F61C01F61E01F62001F62501F62801F62B01F62D01F62D01F63001F63301F63501F640,
   0x01F64501F64F01F68001F6C501F70001F77302B74002B81D]

def version6Dot1 : PackedRanges :=
  [0x00058F00058F0006040006040008A00008A00008A20008AC0008E40008FE000AF0000AF0,
   0x000EDE000EDF0010C70010C70010CD0010CD0010FD0010FF001BAB001BAD001BBA001BBF,
   0x001CC0001CC7001CF3001CF60027CB0027CB0027CD0027CD002CF2002CF3002D27002D27,
   0x002D2D002D2D002D66002D67002E32002E3B009FCC009FCC00A67400A67B00A69F00A69F,
   0x00A79200A79300A7AA00A7AA00A7F800A7F900AAE000AAF600FA2E00FA2F0109800109B7,
   0x0109BE0109BF0110D00110E80110F00110F90111000111340111360111430111800111C8,
   0x0111D00111D90116800116B70116C00116C9016F00016F44016F50016F7E016F8F016F9F,
   0x01EE0001EE0301EE0501EE1F01EE2101EE2201EE2401EE2401EE2701EE2701EE2901EE32,
   0x01EE3401EE3701EE3901EE3901EE3B01EE3B01EE4201EE4201EE4701EE4701EE4901EE49,
   0x01EE4B01EE4B01EE4D01EE4F01EE5101EE5201EE5401EE5401EE5701EE5701EE5901EE59,
   0x01EE5B01EE5B01EE5D01EE5D01EE5F01EE5F01EE6101EE6201EE6401EE6401EE6701EE6A,
   0x01EE6C01EE7201EE7401EE7701EE7901EE7C01EE7E01EE7E01EE8001EE8901EE8B01EE9B,
   0x01EEA101EEA301EEA501EEA901EEAB01EEBB01EEF001EEF101F16A01F16B01F54001F543,
   0x01F60001F60001F61101F61101F61501F61501F61701F61701F61901F61901F61B01F61B,
   0x01F61F01F61F01F62601F62701F62C01F62C01F62E01F62F01F63401F634]

def version6Dot2 : PackedRanges :=
  [0x0020BA0020BA]

def version6Dot3 : PackedRanges :=
  [0x00061C00061C002066002069]

def version7Dot0 : PackedRanges :=
  [0x00037F00037F00052800052F00058D00058E0006050006050008A10008A10008AD0008B2,
   0x0008FF0008FF000978000978000980000980000C00000C00000C34000C34000C81000C81,
   0x000D01000D01000DE6000DEF0016F10016F800191D00191E001AB0001ABE001CF8001CF9,
   0x001DE7001DF50020BB0020BD0023F40023FA002700002700002B4D002B4F002B5A002B73,
   0x002B76002B95002B98002BB9002BBD002BC8002BCA002BD1002E3C002E4200A69800A69D,
   0x00A79400A79F00A7AB00A7AD00A7B000A7B100A7F700A7F700A9E000A9FE00AA7C00AA7F,
   0x00AB3000AB5F00AB6400AB6500FE2700FE2D01018B01018C0101A00101A00102E00102FB,
   0x01031F01031F01035001037A01050001052701053001056301056F01056F010600010736,
   0x01074001075501076001076701086001089E0108A70108AF010A80010A9F010AC0010AE6,
   0x010AEB010AF6010B80010B91010B99010B9C010BA9010BAF01107F01107F011150011176,
   0x0111CD0111CD0111DA0111DA0111E10111F401120001121101121301123D0112B00112EA,
   0x0112F00112F901130101130301130501130C01130F01131001131301132801132A011330,
   0x01133201133301133501133901133C01134401134701134801134B01134D011357011357,
   0x01135D01136301136601136C0113700113740114800114C70114D00114D90115800115B5,
   0x0115B80115C90116000116440116500116590118A00118F20118FF0118FF011AC0011AF8,
   0x01236F01239801246301246E012474012474016A40016A5E016A60016A69016A6E016A6F,
   0x016AD0016AED016AF0016AF5016B00016B45016B50016B59016B5B016B61016B63016B77,
   0x016B7D016B8F01BC0001BC6A01BC7001BC7C01BC8001BC8801BC9001BC9901BC9C01BCA3,
   0x01E80001E8C401E8C701E8D601F0BF01F0BF01F0E001F0F501F10B01F10C01F32101F32C,
   0x01F33601F33601F37D01F37D01F39401F39F01F3C501F3C501F3CB01F3CE01F3D401F3DF,
   0x01F3F101F3F701F43F01F43F01F44101F44101F4F801F4F801F4FD01F4FE01F53E01F53F,
   0x01F54401F54A01F56801F57901F57B01F5A301F5A501F5FA01F64101F64201F65001F67F,
   0x01F6C601F6CF01F6E001F6EC01F6F001F6F301F78001F7D401F80001F80B01F81001F847,
   0x01F85001F85901F86001F88701F89001F8AD]

def version8Dot0 : PackedRanges :=
  [0x0008B30008B40008E30008E3000AF9000AF9000C5A000C5A000D5F000D5F0013F50013F5,
   0x0013F80013FD0020BE0020BE00218A00218B002BEC002BEF009FCD009FD500A69E00A69E,
   0x00A78F00A78F00A7B200A7B700A8FC00A8FD00AB6000AB6300AB7000ABBF00FE2E00FE2F,
   0x0108E00108F20108F40108F50108FB0108FF0109BC0109BD0109C00109CF0109D20109FF,
   0x010C80010CB2010CC0010CF2010CFA010CFF0111C90111CC0111DB0111DF011280011286,
   0x01128801128801128A01128D01128F01129D01129F0112A9011300011300011350011350,
   0x0115CA0115DD01170001171901171D01172B01173001173F012399012399012480012543,
   0x01440001464601D1DE01D1E801D80001DA8B01DA9B01DA9F01DAA101DAAF01F32D01F32F,
   0x01F37E01F37F01F3CF01F3D301F3F801F3FF01F4FF01F4FF01F54B01F54F01F64301F644,
   0x01F6D001F6D001F91001F91801F98001F98401F9C001F9C002B82002CEA1]

def version9Dot0 : PackedRanges :=
  [0x0008B60008BD0008D40008E2000C80000C80000D4F000D4F000D54000D56000D58000D5E,
   0x000D76000D78001C80001C88001DFB001DFB0023FB0023FE002E43002E4400A7AE00A7AE,
   0x00A8C500A8C501018D01018E0104B00104D30104D80104FB01123E01123E011400011459,
   0x01145B01145B01145D01145D01166001166C011C00011C08011C0A011C36011C38011C45,
   0x011C50011C6C011C70011C8F011C92011CA7011CA9011CB6016FE0016FE00170000187EC,
   0x018800018AF201E00001E00601E00801E01801E01B01E02101E02301E02401E02601E02A,
   0x01E90001E94A01E95001E95901E95E01E95F01F19B01F1AC01F23B01F23B01F57A01F57A,
   0x01F5A401F5A401F6D101F6D201F6F401F6F601F91901F91E01F92001F92701F93001F930,
   0x01F93301F93E01F94001F94B01F95001F95E01F98501F991]

def version10Dot0 : PackedRanges :=
  [0x00086000086A0009FC0009FD000AFA000AFF000D00000D00000D3B000D3C001CF7001CF7,
   0x001DF6001DF90020BF0020BF0023FF0023FF002BD2002BD2002E45002E4900312E00312E,
   0x009FD6009FEA01032D01032F011A00011A47011A50011A83011A86011A9C011A9E011AA2,
   0x011D00011D06011D08011D09011D0B011D36011D3A011D3A011D3C011D3D011D3F011D47,
   0x011D50011D59016FE1016FE101B00201B11E01B17001B2FB01F26001F26501F6D301F6D4,
   0x01F6F701F6F801F90001F90B01F91F01F91F01F92801F92F01F93101F93201F94C01F94C,
   0x01F95F01F96B01F99201F99701F9D001F9E602CEB002EBE0]

def version11Dot0 : PackedRanges :=
  [0x0005600005600005880005880005EF0005EF0007FD0007FF0008D30008D30009FE0009FE,
   0x000A76000A76000C04000C04000C84000C84001878001878001C90001CBA001CBD001CBF,
   0x002BBA002BBC002BD3002BEB002BF0002BFE002E4A002E4E00312F00312F009FEB009FEF,
   0x00A7AF00A7AF00A7B800A7B900A8FE00A8FF010A34010A35010A48010A48010D00010D27,
   0x010D30010D39010F00010F27010F30010F590110CD0110CD01114401114601133B01133B,
   0x01145E01145E01171A01171A01180001183B011A9D011A9D011D60011D65011D67011D68,
   0x011D6A011D8E011D90011D91011D93011D98011DA0011DA9011EE0011EF8016E40016E9A,
   0x0187ED0187F101D2E001D2F301D37201D37801EC7101ECB401F12F01F12F01F6F901F6F9,
   0x01F7D501F7D801F94D01F94F01F96C01F97001F97301F97601F97A01F97A01F97C01F97F,
   0x01F99801F9A201F9B001F9B901F9C101F9C201F9E701F9FF01FA6001FA6D]

def version12Dot0 : PackedRanges :=
  [0x000C77000C77000E86000E86000E89000E89000E8C000E8C000E8E000E93000E98000E98,
   0x000EA0000EA0000EA8000EA9000EAC000EAC000EBA000EBA001CFA001CFA002BC9002BC9,
   0x002BFF002BFF002E4F002E4F00A7BA00A7BF00A7C200A7C600AB6600AB67010FE0010FF6,
   0x01145F01145F0116B80116B80119A00119A70119AA0119D70119DA0119E4011A84011A85,
   0x011FC0011FF1011FFF011FFF013430013438016F45016F4A016F4F016F4F016F7F016F87,
   0x016FE2016FE30187F20187F701B15001B15201B16401B16701E10001E12C01E13001E13D,
   0x01E14001E14901E14E01E14F01E2C001E2F901E2FF01E2FF01E94B01E94B01ED0101ED3D,
   0x01F16C01F16C01F6D501F6D501F6FA01F6FA01F7E001F7EB01F90D01F90F01F93F01F93F,
   0x01F97101F97101F97B01F97B01F9A501F9AA01F9AE01F9AF01F9BA01F9BF01F9C301F9CA,
   0x01F9CD01F9CF01FA0001FA5301FA7001FA7301FA7801FA7A01FA8001FA8201FA9001FA95]

def version12Dot1 : PackedRanges :=
  [0x0032FF0032FF]

def version13Dot0 : PackedRanges :=
  [0x0008BE0008C7000B55000B55000D04000D04000D81000D81001ABF001AC0002B97002B97,
   0x002E50002E520031BB0031BF004DB6004DBF009FF0009FFC00A7C700A7CA00A7F500A7F6,
   0x00A82C00A82C00AB6800AB6B01019C01019C010E80010EA9010EAB010EAD010EB0010EB1,
   0x010FB0010FCB0111470111470111CE0111CF01145A01145A011460011461011900011906,
   0x01190901190901190C01191301191501191601191801193501193701193801193B011946,
   0x011950011959011FB0011FB0016FE4016FE4016FF0016FF1018AF3018CD5018D00018D08,
   0x01F10D01F10F01F16D01F16F01F1AD01F1AD01F6D601F6D701F6FB01F6FC01F8B001F8B1,
   0x01F90C01F90C01F97201F97201F97701F97801F9A301F9A401F9AB01F9AD01F9CB01F9CB,
   0x01FA7401FA7401FA8301FA8601FA9601FAA801FAB001FAB601FAC001FAC201FAD001FAD6,
   0x01FB0001FB9201FB9401FBCA01FBF001FBF902A6D702A6DD03000003134A]

def version14Dot0 : PackedRanges :=
  [0x00061D00061D00087000088E00089000089100089800089F0008B50008B50008C80008D2,
   0x000C3C000C3C000C5D000C5D000CDD000CDD00170D00170D00171500171500171F00171F,
   0x00180F00180F001AC1001ACE001B4C001B4C001B7D001B7E001DFA001DFA0020C00020C0,
   0x002C2F002C2F002C5F002C5F002E53002E5D009FFD009FFF00A7C000A7C100A7D000A7D1,
   0x00A7D300A7D300A7D500A7D900A7F200A7F400FBC200FBC200FD4000FD4F00FDCF00FDCF,
   0x00FDFE00FDFF01057001057A01057C01058A01058C0105920105940105950105970105A1,
   0x0105A30105B10105B30105B90105BB0105BC0107800107850107870107B00107B20107BA,
   0x010F70010F890110700110750110C20110C20116B90116B9011740011746011AB0011ABF,
   0x012F90012FF2016A70016ABE016AC0016AC901AFF001AFF301AFF501AFFB01AFFD01AFFE,
   0x01B11F01B12201CF0001CF2D01CF3001CF4601CF5001CFC301D1E901D1EA01DF0001DF1E,
   0x01E29001E2AE01E7E001E7E601E7E801E7EB01E7ED01E7EE01E7F001E7FE01F6DD01F6DF,
   0x01F7F001F7F001F97901F97901F9CC01F9CC01FA7B01FA7C01FAA901FAAC01FAB701FABA,
   0x01FAC301FAC501FAD701FAD901FAE001FAE701FAF001FAF602A6DE02A6DF02B73502B738]

def version15Dot0 : PackedRanges :=
  [0x000CF3000CF3000ECE000ECE010EFD010EFF01123F011241011B00011B09011F00011F10,
   0x011F12011F3A011F3E011F5901342F01342F01343901345501B13201B13201B15501B155,
   0x01D2C001D2D301DF2501DF2A01E03001E06D01E08F01E08F01E4D001E4F901F6DC01F6DC,
   0x01F77401F77601F77B01F77F01F7D901F7D901FA7501FA7701FA8701FA8801FAAD01FAAF,
   0x01FABB01FABD01FABF01FABF01FACE01FACF01FADA01FADB01FAE801FAE801FAF701FAF8,
   0x02B73902B7390313500323AF]

def version15Dot1 : PackedRanges :=
  [0x002FFC002FFF0031EF0031EF02EBF002EE5D]

def version16Dot0 : PackedRanges :=
  [0x000897000897001B4E001B4F001B7F001B7F001C89001C8A0024270024290031E40031E5,
   0x00A7CB00A7CD00A7DA00A7DC0105C00105F3010D40010D65010D69010D85010D8E010D8F,
   0x010EC2010EC4010EFC010EFC01138001138901138B01138B01138E01138E0113900113B5,
   0x0113B70113C00113C20113C20113C50113C50113C70113CA0113CC0113D50113D70113D8,
   0x0113E10113E20116D00116E3011BC0011BE1011BF0011BF9011F5A011F5A0134600143FA,
   0x016100016139016D40016D79018CFF018CFF01CC0001CCF901CD0001CEB301E5D001E5FA,
   0x01E5FF01E5FF01F8B201F8BB01F8C001F8C101FA8901FA8901FA8F01FA8F01FABE01FABE,
   0x01FAC601FAC601FADC01FADC01FADF01FADF01FAE901FAE901FBCB01FBEF]

/-- The versions in their order, under their loosely matched names. -/
def byName : List (List String × PackedRanges) := [
  (["1.1", "v11"], version1Dot1),
  (["2.0", "v20"], version2Dot0),
  (["2.1", "v21"], version2Dot1),
  (["3.0", "v30"], version3Dot0),
  (["3.1", "v31"], version3Dot1),
  (["3.2", "v32"], version3Dot2),
  (["4.0", "v40"], version4Dot0),
  (["4.1", "v41"], version4Dot1),
  (["5.0", "v50"], version5Dot0),
  (["5.1", "v51"], version5Dot1),
  (["5.2", "v52"], version5Dot2),
  (["6.0", "v60"], version6Dot0),
  (["6.1", "v61"], version6Dot1),
  (["6.2", "v62"], version6Dot2),
  (["6.3", "v63"], version6Dot3),
  (["7.0", "v70"], version7Dot0),
  (["8.0", "v80"], version8Dot0),
  (["9.0", "v90"], version9Dot0),
  (["10.0", "v100"], version10Dot0),
  (["11.0", "v110"], version11Dot0),
  (["12.0", "v120"], version12Dot0),
  (["12.1", "v121"], version12Dot1),
  (["13.0", "v130"], version13Dot0),
  (["14.0", "v140"], version14Dot0),
  (["15.0", "v150"], version15Dot0),
  (["15.1", "v151"], version15Dot1),
  (["16.0", "v160"], version16Dot0)]

end Age

end Unicode

end Scopelight
