import Scopelight.Unicode.Ranges

/-!
# Script extensions

The code points used with each script, shared ones included, as packed range
tables.
-/

namespace Scopelight

namespace Unicode

namespace ScriptExtension

/-- The scripts from `Adlam` to `Chorasmian`. -/
def fromAdlam : List (List String × PackedRanges) := [
  (["adlm", "adlam"],
    [0x00061F00061F00064000064000204F00204F002E41002E4101E90001E94B01E95001E959,
     0x01E95E01E95F]),
  (["ahom"],
    [0x01170001171A01171D01172B011730011746]),
  (["hluw", "anatolianhieroglyphs"],
    [0x014400014646]),
  (["arab", "arabic"],
    [0x0006000006040006060006DC0006DE0006FF00075000077F00087000088E000890000891,
     0x0008970008E10008E30008FF00204F00204F002E41002E4100FB5000FBC200FBD300FD8F,
     0x00FD9200FDC700FDCF00FDCF00FDF000FDFF00FE7000FE7400FE7600FEFC0102E00102FB,
     0x010E60010E7E010EC2010EC4010EFC010EFF01EE0001EE0301EE0501EE1F01EE2101EE22,
     0x01EE2401EE2401EE2701EE2701EE2901EE3201EE3401EE3701EE3901EE3901EE3B01EE3B,
     0x01EE4201EE4201EE4701EE4701EE4901EE4901EE4B01EE4B01EE4D01EE4F01EE5101EE52,
     0x01EE5401EE5401EE5701EE5701EE5901EE5901EE5B01EE5B01EE5D01EE5D01EE5F01EE5F,
     0x01EE6101EE6201EE6401EE6401EE6701EE6A01EE6C01EE7201EE7401EE7701EE7901EE7C,
     0x01EE7E01EE7E01EE8001EE8901EE8B01EE9B01EEA101EEA301EEA501EEA901EEAB01EEBB,
     0x01EEF001EEF1]),
  (["armn", "armenian"],
    [0x00030800030800053100055600055900058A00058D00058F00FB1300FB17]),
  (["avst", "avestan"],
    [0x0000B70000B7002E30002E31010B00010B35010B39010B3F]),
  (["bali", "balinese"],
    [0x001B00001B4C001B4E001B7F]),
  (["bamu", "bamum"],
    [0x00A6A000A6F7016800016A38]),
  (["bass", "bassavah"],
    [0x016AD0016AED016AF0016AF5]),
  (["batk", "batak"],
    [0x001BC0001BF3001BFC001BFF]),
  (["beng", "bengali"],
    [0x0002BC0002BC00095100095200096400096500098000098300098500098C00098F000990,
     0x0009930009A80009AA0009B00009B20009B20009B60009B90009BC0009C40009C70009C8,
     0x0009CB0009CE0009D70009D70009DC0009DD0009DF0009E30009E60009FE001CD0001CD0,
     0x001CD2001CD2001CD5001CD6001CD8001CD8001CE1001CE1001CEA001CEA001CED001CED,
     0x001CF2001CF2001CF5001CF700A8F100A8F1]),
  (["bhks", "bhaiksuki"],
    [0x011C00011C08011C0A011C36011C38011C45011C50011C6C]),
  (["bopo", "bopomofo"],
    [0x0002C70002C70002C90002CB0002D90002D90002EA0002EB003001003003003008003011,
     0x00301300301F00302A00302D0030300030300030370030370030FB0030FB00310500312F,
     0x0031A00031BF00FE4500FE4600FF6100FF65]),
  (["brah", "brahmi"],
    [0x01100001104D01105201107501107F01107F]),
  (["brai", "braille"],
    [0x0028000028FF]),
  (["bugi", "buginese"],
    [0x001A00001A1B001A1E001A1F00A9CF00A9CF]),
  (["buhd", "buhid"],
    [0x001735001736001740001753]),
  (["cans", "canadianaboriginal"],
    [0x00140000167F0018B00018F5011AB0011ABF]),
  (["cari", "carian"],
    [0x0000B70000B700205A00205A00205D00205D002E31002E310102A00102D0]),
  (["aghb", "caucasianalbanian"],
    [0x00030400030400033100033100035E00035E01053001056301056F01056F]),
  (["cakm", "chakma"],
    [0x0009E60009EF001040001049011100011134011136011147]),
  (["cham"],
    [0x00AA0000AA3600AA4000AA4D00AA5000AA5900AA5C00AA5F]),
  (["cher", "cherokee"],
    [0x00030000030200030400030400030B00030C0003230003240003300003310013A00013F5,
     0x0013F80013FD00AB7000ABBF]),
  (["chrs", "chorasmian"],
    [0x010FB0010FCB])]

/-- The scripts from `Common` to `Gurmukhi`. -/
def fromCommon : List (List String × PackedRanges) := [
  (["zyyy", "common"],
    [0x00000000004000005B00006000007B0000A90000AB0000B60000B80000B90000BB0000BF,
     0x0000D70000D70000F70000F70002B90002BB0002BD0002C60002C80002C80002CC0002CC,
     0x0002CE0002D60002D80002D80002DA0002DF0002E50002E90002EC0002FF00037E00037E,
     0x0003850003850003870003870006050006050006DD0006DD0008E20008E2000E3F000E3F,
     0x000FD5000FD800200000200B00200E00202E00203000204E00205000205900205B00205C,
     0x00205E00206400206600207000207400207E00208000208E0020A00020C0002100002125,
     0x00212700212900212C00213100213300214D00214F00215F00218900218B002190002429,
     0x00244000244A0024600027FF002900002B73002B76002B95002B97002BFF002E00002E16,
     0x002E18002E2F002E32002E3B002E3D002E40002E42002E42002E44002E5D003000003000,
     0x00300400300400301200301200302000302000303600303600324800325F00327F00327F,
     0x0032B10032BF0032CC0032CF00337100337A0033800033DF0033FF0033FF004DC0004DFF,
     0x00A70800A72100A78800A78A00AB5B00AB5B00AB6A00AB6B00FE1000FE1900FE3000FE44,
     0x00FE4700FE5200FE5400FE6600FE6800FE6B00FEFF00FEFF00FF0100FF2000FF3B00FF40,
     0x00FF5B00FF6000FFE000FFE600FFE800FFEE00FFF900FFFD01019001019C0101D00101FC,
     0x01CC0001CCF901CD0001CEB301CF5001CFC301D00001D0F501D10001D12601D12901D166,
     0x01D16A01D17A01D18301D18401D18C01D1A901D1AE01D1EA01D2C001D2D301D2E001D2F3,
     0x01D30001D35601D37201D37801D40001D45401D45601D49C01D49E01D49F01D4A201D4A2,
     0x01D4A501D4A601D4A901D4AC01D4AE01D4B901D4BB01D4BB01D4BD01D4C301D4C501D505,
     0x01D50701D50A01D50D01D51401D51601D51C01D51E01D53901D53B01D53E01D54001D544,
     0x01D54601D54601D54A01D55001D55201D6A501D6A801D7CB01D7CE01D7FF01EC7101ECB4,
     0x01ED0101ED3D01F00001F02B01F03001F09301F0A001F0AE01F0B101F0BF01F0C101F0CF,
     0x01F0D101F0F501F10001F1AD01F1E601F1FF01F20101F20201F21001F23B01F24001F248,
     0x01F26001F26501F30001F6D701F6DC01F6EC01F6F001F6FC01F70001F77601F77B01F7D9,
     0x01F7E001F7EB01F7F001F7F001F80001F80B01F81001F84701F85001F85901F86001F887,
     0x01F89001F8AD01F8B001F8BB01F8C001F8C101F90001FA5301FA6001FA6D01FA7001FA7C,
     0x01FA8001FA8901FA8F01FAC601FACE01FADC01FADF01FAE901FAF001FAF801FB0001FB92,
     0x01FB9401FBF90E00010E00010E00200E007F]),
  (["copt", "qaac", "coptic"],
    [0x0000B70000B70003000003000003040003050003070003070003740003750003E20003EF,
     0x002C80002CF3002CF9002CFF002E17002E170102E00102FB]),
  (["xsux", "cuneiform"],
    [0x01200001239901240001246E012470012474012480012543]),
  (["cprt", "cypriot"],
    [0x01010001010201010701013301013701013F01080001080501080801080801080A010835,
     0x01083701083801083C01083C01083F01083F]),
  (["cpmn", "cyprominoan"],
    [0x010100010101012F90012FF2]),
  (["cyrl", "cyrillic"],
    [0x0002BC0002BC00030000030200030400030400030600030600030800030800030B00030B,
     0x00031100031100040000052F001C80001C8A001D2B001D2B001D78001D78001DF8001DF8,
     0x002DE0002DFF002E43002E4300A64000A69F00FE2E00FE2F01E03001E06D01E08F01E08F]),
  (["dsrt", "deseret"],
    [0x01040001044F]),
  (["deva", "devanagari"],
    [0x0002BC0002BC00090000095200095500097F001CD0001CF6001CF8001CF90020F00020F0,
     0x00A83000A83900A8E000A8FF011B00011B09]),
  (["diak", "divesakuru"],
    [0x01190001190601190901190901190C011913011915011916011918011935011937011938,
     0x01193B011946011950011959]),
  (["dogr", "dogra"],
    [0x00096400096F00A83000A83901180001183B]),
  (["dupl", "duployan"],
    [0x0000B70000B700030700030800030A00030A000323000324002E3C002E3C01BC0001BC6A,
     0x01BC7001BC7C01BC8001BC8801BC9001BC9901BC9C01BCA3]),
  (["egyp", "egyptianhieroglyphs"],
    [0x0130000134550134600143FA]),
  (["elba", "elbasan"],
    [0x0000B70000B7000305000305010500010527]),
  (["elym", "elymaic"],
    [0x010FE0010FF6]),
  (["ethi", "ethiopic"],
    [0x00030E00030E00120000124800124A00124D00125000125600125800125800125A00125D,
     0x00126000128800128A00128D0012900012B00012B20012B50012B80012BE0012C00012C0,
     0x0012C20012C50012C80012D60012D800131000131200131500131800135A00135D00137C,
     0x001380001399002D80002D96002DA0002DA6002DA8002DAE002DB0002DB6002DB8002DBE,
     0x002DC0002DC6002DC8002DCE002DD0002DD6002DD8002DDE00AB0100AB0600AB0900AB0E,
     0x00AB1100AB1600AB2000AB2600AB2800AB2E01E7E001E7E601E7E801E7EB01E7ED01E7EE,
     0x01E7F001E7FE]),
  (["gara", "garay"],
    [0x00060C00060C00061B00061B00061F00061F010D40010D65010D69010D85010D8E010D8F]),
  (["geor", "georgian"],
    [0x0000B70000B70005890005890010A00010C50010C70010C70010CD0010CD0010D00010FF,
     0x001C90001CBA001CBD001CBF00205A00205A002D00002D25002D27002D27002D2D002D2D,
     0x002E31002E31]),
  (["glag", "glagolitic"],
    [0x0000B70000B7000303000303000305000305000484000484000487000487000589000589,
     0x0010FB0010FB00205A00205A002C00002C5F002E43002E4300A66F00A66F01E00001E006,
     0x01E00801E01801E01B01E02101E02301E02401E02601E02A]),
  (["goth", "gothic"],
    [0x0000B70000B700030400030500030800030800033100033101033001034A]),
  (["gran", "grantha"],
    [0x000951000952000964000965000BE6000BF3001CD0001CD0001CD2001CD3001CF2001CF4,
     0x001CF8001CF90020F00020F001130001130301130501130C01130F011310011313011328,
     0x01132A01133001133201133301133501133901133B01134401134701134801134B01134D,
     0x01135001135001135701135701135D01136301136601136C011370011374011FD0011FD1,
     0x011FD3011FD3]),
  (["grek", "greek"],
    [0x0000B70000B7000300000301000304000304000306000306000308000308000313000313,
     0x00034200034200034500034500037000037700037A00037D00037F00037F000384000384,
     0x00038600038600038800038A00038C00038C00038E0003A10003A30003E10003F00003FF,
     0x001D26001D2A001D5D001D61001D66001D6A001DBF001DC1001F00001F15001F18001F1D,
     0x001F20001F45001F48001F4D001F50001F57001F59001F59001F5B001F5B001F5D001F5D,
     0x001F5F001F7D001F80001FB4001FB6001FC4001FC6001FD3001FD6001FDB001FDD001FEF,
     0x001FF2001FF4001FF6001FFE00205D00205D00212600212600AB6500AB6501014001018E,
     0x0101A00101A001D20001D245]),
  (["gujr", "gujarati"],
    [0x000951000952000964000965000A81000A83000A85000A8D000A8F000A91000A93000AA8,
     0x000AAA000AB0000AB2000AB3000AB5000AB9000ABC000AC5000AC7000AC9000ACB000ACD,
     0x000AD0000AD0000AE0000AE3000AE6000AF1000AF9000AFF00A83000A839]),
  (["gong", "gunjalagondi"],
    [0x0000B70000B7000964000965011D60011D65011D67011D68011D6A011D8E011D90011D91,
     0x011D93011D98011DA0011DA9]),
  (["guru", "gurmukhi"],
    [0x000951000952000964000965000A01000A03000A05000A0A000A0F000A10000A13000A28,
     0x000A2A000A30000A32000A33000A35000A36000A38000A39000A3C000A3C000A3E000A42,
     0x000A47000A48000A4B000A4D000A51000A51000A59000A5C000A5E000A5E000A66000A76,
     0x00A83000A839])]

/-- The scripts from `Gurung_Khema` to `Kirat_Rai`. -/
def fromGurungKhema : List (List String × PackedRanges) := [
  (["gukh", "gurungkhema"],
    [0x000965000965016100016139]),
  (["han", "hani"],
    [0x0000B70000B7002E80002E99002E9B002EF3002F00002FD5002FF0002FFF003001003003,
     0x00300500301100301300301F00302100302D00303000303000303700303F0030FB0030FB,
     0x00319000319F0031C00031E50031EF0031EF0032200032470032800032B00032C00032CB,
     0x0032FF0032FF00335800337000337B00337F0033E00033FE003400004DBF004E00009FFF,
     0x00A70000A70700F90000FA6D00FA7000FAD900FE4500FE4600FF6100FF65016FE2016FE3,
     0x016FF0016FF101D36001D37101F25001F25102000002A6DF02A70002B73902B74002B81D,
     0x02B82002CEA102CEB002EBE002EBF002EE5D02F80002FA1D03000003134A0313500323AF]),
  (["hang", "hangul"],
    [0x0011000011FF00300100300300300800301100301300301F00302E003030003037003037,
     0x0030FB0030FB00313100318E00320000321E00326000327E00A96000A97C00AC0000D7A3,
     0x00D7B000D7C600D7CB00D7FB00FE4500FE4600FF6100FF6500FFA000FFBE00FFC200FFC7,
     0x00FFCA00FFCF00FFD200FFD700FFDA00FFDC]),
  (["rohg", "hanifirohingya"],
    [0x00060C00060C00061B00061B00061F00061F0006400006400006D40006D4010D00010D27,
     0x010D30010D39]),
  (["hano", "hanunoo"],
    [0x001720001736]),
  (["hatr", "hatran"],
    [0x0108E00108F20108F40108F50108FB0108FF]),
  (["hebr", "hebrew"],
    [0x0003070003080005910005C70005D00005EA0005EF0005F400FB1D00FB3600FB3800FB3C,
     0x00FB3E00FB3E00FB4000FB4100FB4300FB4400FB4600FB4F]),
  (["hira", "hiragana"],
    [0x00300100300300300800301100301300301F00303000303500303700303700303C00303D,
     0x0030410030960030990030A00030FB0030FC00FE4500FE4600FF6100FF6500FF7000FF70,
     0x00FF9E00FF9F01B00101B11F01B13201B13201B15001B15201F20001F200]),
  (["armi", "imperialaramaic"],
    [0x01084001085501085701085F]),
  (["qaai", "zinh", "inherited"],
    [0x00030F00030F00031200031200031400031F00032100032200032600032C00032F00032F,
     0x00033200034100034300034400034600035700035900035D00035F000362000953000954,
     0x001AB0001ACE001DC2001DF7001DF9001DF9001DFB001DFF00200C00200D0020D00020EF,
     0x00FE0000FE0F00FE2000FE2D0101FD0101FD01CF0001CF2D01CF3001CF4601D16701D169,
     0x01D17B01D18201D18501D18B01D1AA01D1AD0E01000E01EF]),
  (["phli", "inscriptionalpahlavi"],
    [0x010B60010B72010B78010B7F]),
  (["prti", "inscriptionalparthian"],
    [0x010B40010B55010B58010B5F]),
  (["java", "javanese"],
    [0x00A98000A9CD00A9CF00A9D900A9DE00A9DF]),
  (["kthi", "kaithi"],
    [0x00096600096F002E31002E3100A83000A8390110800110C20110CD0110CD]),
  (["knda", "kannada"],
    [0x000951000952000964000965000C80000C8C000C8E000C90000C92000CA8000CAA000CB3,
     0x000CB5000CB9000CBC000CC4000CC6000CC8000CCA000CCD000CD5000CD6000CDD000CDE,
     0x000CE0000CE3000CE6000CEF000CF1000CF3001CD0001CD0001CD2001CD3001CDA001CDA,
     0x001CF2001CF2001CF4001CF400A83000A835]),
  (["kana", "katakana"],
    [0x00030500030500032300032300300100300300300800301100301300301F003030003035,
     0x00303700303700303C00303D00309900309C0030A00030FF0031F00031FF0032D00032FE,
     0x00330000335700FE4500FE4600FF6100FF9F01AFF001AFF301AFF501AFFB01AFFD01AFFE,
     0x01B00001B00001B12001B12201B15501B15501B16401B167]),
  (["kawi"],
    [0x011F00011F10011F12011F3A011F3E011F5A]),
  (["kali", "kayahli"],
    [0x00A90000A92F]),
  (["khar", "kharoshthi"],
    [0x010A00010A03010A05010A06010A0C010A13010A15010A17010A19010A35010A38010A3A,
     0x010A3F010A48010A50010A58]),
  (["kits", "khitansmallscript"],
    [0x016FE4016FE4018B00018CD5018CFF018CFF]),
  (["khmr", "khmer"],
    [0x0017800017DD0017E00017E90017F00017F90019E00019FF]),
  (["khoj", "khojki"],
    [0x000AE6000AEF00A83000A839011200011211011213011241]),
  (["sind", "khudawadi"],
    [0x00096400096500A83000A8390112B00112EA0112F00112F9]),
  (["krai", "kiratrai"],
    [0x016D40016D79])]

/-- The scripts from `Lao` to `Mongolian`. -/
def fromLao : List (List String × PackedRanges) := [
  (["lao", "laoo"],
    [0x000E81000E82000E84000E84000E86000E8A000E8C000EA3000EA5000EA5000EA7000EBD,
     0x000EC0000EC4000EC6000EC6000EC8000ECE000ED0000ED9000EDC000EDF]),
  (["latn", "latin"],
    [0x00004100005A00006100007A0000AA0000AA0000B70000B70000BA0000BA0000C00000D6,
     0x0000D80000F60000F80002B80002BC0002BC0002C70002C70002C90002CB0002CD0002CD,
     0x0002D70002D70002D90002D90002E00002E400030000030E000310000311000313000313,
     0x00032000032000032300032500032D00032E00033000033100035800035800035E00035E,
     0x00036300036F0004850004860009510009520010FB0010FB001D00001D25001D2C001D5C,
     0x001D62001D65001D6B001D77001D79001DBE001DF8001DF8001E00001EFF00202F00202F,
     0x00207100207100207F00207F00209000209C0020F00020F000212A00212B002132002132,
     0x00214E00214E002160002188002C60002C7F002E17002E1700A70000A70700A72200A787,
     0x00A78B00A7CD00A7D000A7D100A7D300A7D300A7D500A7DC00A7F200A7FF00A92E00A92E,
     0x00AB3000AB5A00AB5C00AB6400AB6600AB6900FB0000FB0600FF2100FF3A00FF4100FF5A,
     0x0107800107850107870107B00107B20107BA01DF0001DF1E01DF2501DF2A]),
  (["lepc", "lepcha"],
    [0x001C00001C37001C3B001C49001C4D001C4F]),
  (["limb", "limbu"],
    [0x00096500096500190000191E00192000192B00193000193B00194000194000194400194F]),
  (["lina", "lineara"],
    [0x010107010133010600010736010740010755010760010767]),
  (["linb", "linearb"],
    [0x01000001000B01000D01002601002801003A01003C01003D01003F01004D01005001005D,
     0x0100800100FA01010001010201010701013301013701013F]),
  (["lisu"],
    [0x0002BC0002BC0002CD0002CD00300A00300B00A4D000A4FF011FB0011FB0]),
  (["lyci", "lycian"],
    [0x00205A00205A01028001029C]),
  (["lydi", "lydian"],
    [0x0000B70000B7002E31002E3101092001093901093F01093F]),
  (["mahj", "mahajani"],
    [0x0000B70000B700096400096F00A83000A839011150011176]),
  (["maka", "makasar"],
    [0x011EE0011EF8]),
  (["mlym", "malayalam"],
    [0x000951000952000964000965000D00000D0C000D0E000D10000D12000D44000D46000D48,
     0x000D4A000D4F000D54000D63000D66000D7F001CDA001CDA001CF2001CF200A83000A832]),
  (["mand", "mandaic"],
    [0x00064000064000084000085B00085E00085E]),
  (["mani", "manichaean"],
    [0x000640000640010AC0010AE6010AEB010AF6]),
  (["marc", "marchen"],
    [0x011C70011C8F011C92011CA7011CA9011CB6]),
  (["gonm", "masaramgondi"],
    [0x000964000965011D00011D06011D08011D09011D0B011D36011D3A011D3A011D3C011D3D,
     0x011D3F011D47011D50011D59]),
  (["medf", "medefaidrin"],
    [0x016E40016E9A]),
  (["mtei", "meeteimayek"],
    [0x00AAE000AAF600ABC000ABED00ABF000ABF9]),
  (["mend", "mendekikakui"],
    [0x01E80001E8C401E8C701E8D6]),
  (["merc", "meroiticcursive"],
    [0x0109A00109B70109BC0109CF0109D20109FF]),
  (["mero", "meroitichieroglyphs"],
    [0x00205D00205D01098001099F]),
  (["miao", "plrd"],
    [0x016F00016F4A016F4F016F87016F8F016F9F]),
  (["modi"],
    [0x00A83000A839011600011644011650011659]),
  (["mong", "mongolian"],
    [0x0018000018190018200018780018800018AA00202F00202F00300100300200300800300B,
     0x01166001166C])]

/-- The scripts from `Mro` to `Oriya`. -/
def fromMro : List (List String × PackedRanges) := [
  (["mro", "mroo"],
    [0x016A40016A5E016A60016A69016A6E016A6F]),
  (["mult", "multani"],
    [0x000A66000A6F01128001128601128801128801128A01128D01128F01129D01129F0112A9]),
  (["mymr", "myanmar"],
    [0x00100000109F00A92E00A92E00A9E000A9FE00AA6000AA7F0116D00116E3]),
  (["nbat", "nabataean"],
    [0x01088001089E0108A70108AF]),
  (["nagm", "nagmundari"],
    [0x01E4D001E4F9]),
  (["nand", "nandinagari"],
    [0x000964000965000CE6000CEF001CE9001CE9001CF2001CF2001CFA001CFA00A83000A835,
     0x0119A00119A70119AA0119D70119DA0119E4]),
  (["talu", "newtailue"],
    [0x0019800019AB0019B00019C90019D00019DA0019DE0019DF]),
  (["newa"],
    [0x01140001145B01145D011461]),
  (["nko", "nkoo"],
    [0x00060C00060C00061B00061B00061F00061F0007C00007FA0007FD0007FF00FD3E00FD3F]),
  (["nshu", "nushu"],
    [0x016FE1016FE101B17001B2FB]),
  (["hmnp", "nyiakengpuachuehmong"],
    [0x01E10001E12C01E13001E13D01E14001E14901E14E01E14F]),
  (["ogam", "ogham"],
    [0x00168000169C]),
  (["olck", "olchiki"],
    [0x001C50001C7F]),
  (["onao", "olonal"],
    [0x00096400096501E5D001E5FA01E5FF01E5FF]),
  (["hung", "oldhungarian"],
    [0x00205A00205A00205D00205D002E31002E31002E41002E41010C80010CB2010CC0010CF2,
     0x010CFA010CFF]),
  (["ital", "olditalic"],
    [0x01030001032301032D01032F]),
  (["narb", "oldnortharabian"],
    [0x010A80010A9F]),
  (["perm", "oldpermic"],
    [0x0000B70000B700030000030000030600030800031300031300048300048301035001037A]),
  (["xpeo", "oldpersian"],
    [0x0103A00103C30103C80103D5]),
  (["sogo", "oldsogdian"],
    [0x010F00010F27]),
  (["sarb", "oldsoutharabian"],
    [0x010A60010A7F]),
  (["orkh", "oldturkic"],
    [0x00205A00205A002E30002E30010C00010C48]),
  (["ougr", "olduyghur"],
    [0x000640000640010AF2010AF2010F70010F89]),
  (["orya", "oriya"],
    [0x000951000952000964000965000B01000B03000B05000B0C000B0F000B10000B13000B28,
     0x000B2A000B30000B32000B33000B35000B39000B3C000B44000B47000B48000B4B000B4D,
     0x000B55000B57000B5C000B5D000B5F000B63000B66000B77001CDA001CDA001CF2001CF2])]

/-- The scripts from `Osage` to `Syriac`. -/
def fromOsage : List (List String × PackedRanges) := [
  (["osge", "osage"],
    [0x00030100030100030400030400030B00030B0003580003580104B00104D30104D80104FB]),
  (["osma", "osmanya"],
    [0x01048001049D0104A00104A9]),
  (["hmng", "pahawhhmong"],
    [0x016B00016B45016B50016B59016B5B016B61016B63016B77016B7D016B8F]),
  (["palm", "palmyrene"],
    [0x01086001087F]),
  (["pauc", "paucinhau"],
    [0x011AC0011AF8]),
  (["phag", "phagspa"],
    [0x00180200180300180500180500202F00202F00300200300200A84000A877]),
  (["phnx", "phoenician"],
    [0x01090001091B01091F01091F]),
  (["phlp", "psalterpahlavi"],
    [0x000640000640010B80010B91010B99010B9C010BA9010BAF]),
  (["rjng", "rejang"],
    [0x00A93000A95300A95F00A95F]),
  (["runr", "runic"],
    [0x0016A00016F8]),
  (["samr", "samaritan"],
    [0x00080000082D00083000083E002E31002E31]),
  (["saur", "saurashtra"],
    [0x00A88000A8C500A8CE00A8D9]),
  (["shrd", "sharada"],
    [0x000951000951001CD7001CD7001CD9001CD9001CDC001CDD001CE0001CE000A83000A835,
     0x00A83800A8380111800111DF]),
  (["shaw", "shavian"],
    [0x0000B70000B701045001047F]),
  (["sidd", "siddham"],
    [0x0115800115B50115B80115DD]),
  (["sgnw", "signwriting"],
    [0x01D80001DA8B01DA9B01DA9F01DAA101DAAF]),
  (["sinh", "sinhala"],
    [0x000964000965000D81000D83000D85000D96000D9A000DB1000DB3000DBB000DBD000DBD,
     0x000DC0000DC6000DCA000DCA000DCF000DD4000DD6000DD6000DD8000DDF000DE6000DEF,
     0x000DF2000DF4001CF2001CF20111E10111F4]),
  (["sogd", "sogdian"],
    [0x000640000640010F30010F59]),
  (["sora", "sorasompeng"],
    [0x0110D00110E80110F00110F9]),
  (["soyo", "soyombo"],
    [0x011A50011AA2]),
  (["sund", "sundanese"],
    [0x001B80001BBF001CC0001CC7]),
  (["sunu", "sunuwar"],
    [0x00030000030100030300030300030D00030D00031000031000032D00032D000331000331,
     0x011BC0011BE1011BF0011BF9]),
  (["sylo", "sylotinagri"],
    [0x0009640009650009E60009EF00A80000A82C]),
  (["syrc", "syriac"],
    [0x00030300030400030700030800030A00030A00032000032000032300032500032D00032E,
     0x00033000033000060C00060C00061B00061C00061F00061F00064000064000064B000655,
     0x00067000067000070000070D00070F00074A00074D00074F00086000086A001DF8001DF8,
     0x001DFA001DFA])]

/-- The scripts from `Tagalog` to `Yezidi`. -/
def fromTagalog : List (List String × PackedRanges) := [
  (["tglg", "tagalog"],
    [0x00170000171500171F00171F001735001736]),
  (["tagb", "tagbanwa"],
    [0x00173500173600176000176C00176E001770001772001773]),
  (["tale", "taile"],
    [0x00030000030100030700030800030C00030C00104000104900195000196D001970001974]),
  (["lana", "taitham"],
    [0x001A20001A5E001A60001A7C001A7F001A89001A90001A99001AA0001AAD]),
  (["tavt", "taiviet"],
    [0x00AA8000AAC200AADB00AADF]),
  (["takr", "takri"],
    [0x00096400096500A83000A8390116800116B90116C00116C9]),
  (["taml", "tamil"],
    [0x000951000952000964000965000B82000B83000B85000B8A000B8E000B90000B92000B95,
     0x000B99000B9A000B9C000B9C000B9E000B9F000BA3000BA4000BA8000BAA000BAE000BB9,
     0x000BBE000BC2000BC6000BC8000BCA000BCD000BD0000BD0000BD7000BD7000BE6000BFA,
     0x001CDA001CDA00A8F300A8F301130101130101130301130301133B01133C011FC0011FF1,
     0x011FFF011FFF]),
  (["tnsa", "tangsa"],
    [0x016A70016ABE016AC0016AC9]),
  (["tang", "tangut"],
    [0x002FF0002FFF0031EF0031EF016FE0016FE00170000187F7018800018AFF018D00018D08]),
  (["telu", "telugu"],
    [0x000951000952000964000965000C00000C0C000C0E000C10000C12000C28000C2A000C39,
     0x000C3C000C44000C46000C48000C4A000C4D000C55000C56000C58000C5A000C5D000C5D,
     0x000C60000C63000C66000C6F000C77000C7F001CDA001CDA001CF2001CF2]),
  (["thaa", "thaana"],
    [0x00060C00060C00061B00061C00061F00061F0006600006690007800007B100FDF200FDF2,
     0x00FDFD00FDFD]),
  (["thai"],
    [0x0002BC0002BC0002D70002D7000303000303000331000331000E01000E3A000E40000E5B]),
  (["tibt", "tibetan"],
    [0x000F00000F47000F49000F6C000F71000F97000F99000FBC000FBE000FCC000FCE000FD4,
     0x000FD9000FDA00300800300B]),
  (["tfng", "tifinagh"],
    [0x000302000302000304000304000307000307000309000309002D30002D67002D6F002D70,
     0x002D7F002D7F]),
  (["tirh", "tirhuta"],
    [0x000951000952000964000965001CF2001CF200A83000A8390114800114C70114D00114D9]),
  (["todr", "todhri"],
    [0x00030100030100030400030400030700030700031100031100031300031300035E00035E,
     0x0105C00105F3]),
  (["toto"],
    [0x0002BC0002BC01E29001E2AE]),
  (["tutg", "tulutigalari"],
    [0x000CE6000CEF001CF2001CF2001CF4001CF400A83000A83500A8F100A8F1011380011389,
     0x01138B01138B01138E01138E0113900113B50113B70113C00113C20113C20113C50113C5,
     0x0113C70113CA0113CC0113D50113D70113D80113E10113E2]),
  (["ugar", "ugaritic"],
    [0x01038001039D01039F01039F]),
  (["vai", "vaii"],
    [0x00A50000A62B]),
  (["vith", "vithkuqi"],
    [0x01057001057A01057C01058A01058C0105920105940105950105970105A10105A30105B1,
     0x0105B30105B90105BB0105BC]),
  (["wcho", "wancho"],
    [0x01E2C001E2F901E2FF01E2FF]),
  (["wara", "warangciti"],
    [0x0118A00118F20118FF0118FF]),
  (["yezi", "yezidi"],
    [0x00060C00060C00061B00061B00061F00061F000660000669010E80010EA9010EAB010EAD,
     0x010EB0010EB1])]

/-- The scripts from `Yi` to `Zanabazar_Square`. -/
def fromYi : List (List String × PackedRanges) := [
  (["yi", "yiii"],
    [0x00300100300200300800301100301400301B0030FB0030FB00A00000A48C00A49000A4C6,
     0x00FF6100FF65]),
  (["zanb", "zanabazarsquare"],
    [0x011A00011A47])]

/-- The tables under the loosely matched names of their scripts. -/
def byName : List (List String × PackedRanges) :=
  fromAdlam ++
    fromCommon ++
    fromGurungKhema ++
    fromLao ++
    fromMro ++
    fromOsage ++
    fromTagalog ++
    fromYi

end ScriptExtension

end Unicode

end Scopelight
