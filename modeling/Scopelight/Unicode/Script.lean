import Scopelight.Unicode.Ranges

/-!
# Scripts

The code points of each script as packed range tables.
-/

namespace Scopelight

namespace Unicode

namespace Script

/-- The scripts from `Adlam` to `Chorasmian`. -/
def fromAdlam : List (List String × PackedRanges) := [
  (["adlm", "adlam"],
    [0x01E90001E94B01E95001E95901E95E01E95F]),
  (["ahom"],
    [0x01170001171A01171D01172B011730011746]),
  (["hluw", "anatolianhieroglyphs"],
    [0x014400014646]),
  (["arab", "arabic"],
    [0x00060000060400060600060B00060D00061A00061C00061E00062000063F00064100064A,
     0x00065600066F0006710006DC0006DE0006FF00075000077F00087000088E000890000891,
     0x0008970008E10008E30008FF00FB5000FBC200FBD300FD3D00FD4000FD8F00FD9200FDC7,
     0x00FDCF00FDCF00FDF000FDFF00FE7000FE7400FE7600FEFC010E60010E7E010EC2010EC4,
     0x010EFC010EFF01EE0001EE0301EE0501EE1F01EE2101EE2201EE2401EE2401EE2701EE27,
     0x01EE2901EE3201EE3401EE3701EE3901EE3901EE3B01EE3B01EE4201EE4201EE4701EE47,
     0x01EE4901EE4901EE4B01EE4B01EE4D01EE4F01EE5101EE5201EE5401EE5401EE5701EE57,
     0x01EE5901EE5901EE5B01EE5B01EE5D01EE5D01EE5F01EE5F01EE6101EE6201EE6401EE64,
     0x01EE6701EE6A01EE6C01EE7201EE7401EE7701EE7901EE7C01EE7E01EE7E01EE8001EE89,
     0x01EE8B01EE9B01EEA101EEA301EEA501EEA901EEAB01EEBB01EEF001EEF1]),
  (["armn", "armenian"],
    [0x00053100055600055900058A00058D00058F00FB1300FB17]),
  (["avst", "avestan"],
    [0x010B00010B35010B39010B3F]),
  (["bali", "balinese"],
    [0x001B00001B4C001B4E001B7F]),
  (["bamu", "bamum"],
    [0x00A6A000A6F7016800016A38]),
  (["bass", "bassavah"],
    [0x016AD0016AED016AF0016AF5]),
  (["batk", "batak"],
    [0x001BC0001BF3001BFC001BFF]),
  (["beng", "bengali"],
    [0x00098000098300098500098C00098F0009900009930009A80009AA0009B00009B20009B2,
     0x0009B60009B90009BC0009C40009C70009C80009CB0009CE0009D70009D70009DC0009DD,
     0x0009DF0009E30009E60009FE]),
  (["bhks", "bhaiksuki"],
    [0x011C00011C08011C0A011C36011C38011C45011C50011C6C]),
  (["bopo", "bopomofo"],
    [0x0002EA0002EB00310500312F0031A00031BF]),
  (["brah", "brahmi"],
    [0x01100001104D01105201107501107F01107F]),
  (["brai", "braille"],
    [0x0028000028FF]),
  (["bugi", "buginese"],
    [0x001A00001A1B001A1E001A1F]),
  (["buhd", "buhid"],
    [0x001740001753]),
  (["cans", "canadianaboriginal"],
    [0x00140000167F0018B00018F5011AB0011ABF]),
  (["cari", "carian"],
    [0x0102A00102D0]),
  (["aghb", "caucasianalbanian"],
    [0x01053001056301056F01056F]),
  (["cakm", "chakma"],
    [0x011100011134011136011147]),
  (["cham"],
    [0x00AA0000AA3600AA4000AA4D00AA5000AA5900AA5C00AA5F]),
  (["cher", "cherokee"],
    [0x0013A00013F50013F80013FD00AB7000ABBF]),
  (["chrs", "chorasmian"],
    [0x010FB0010FCB])]

/-- The scripts from `Common` to `Gurmukhi`. -/
def fromCommon : List (List String × PackedRanges) := [
  (["zyyy", "common"],
    [0x00000000004000005B00006000007B0000A90000AB0000B90000BB0000BF0000D70000D7,
     0x0000F70000F70002B90002DF0002E50002E90002EC0002FF00037400037400037E00037E,
     0x00038500038500038700038700060500060500060C00060C00061B00061B00061F00061F,
     0x0006400006400006DD0006DD0008E20008E2000964000965000E3F000E3F000FD5000FD8,
     0x0010FB0010FB0016EB0016ED001735001736001802001803001805001805001CD3001CD3,
     0x001CE1001CE1001CE9001CEC001CEE001CF3001CF5001CF7001CFA001CFA00200000200B,
     0x00200E00206400206600207000207400207E00208000208E0020A00020C0002100002125,
     0x00212700212900212C00213100213300214D00214F00215F00218900218B002190002429,
     0x00244000244A0024600027FF002900002B73002B76002B95002B97002BFF002E00002E5D,
     0x002FF000300400300600300600300800302000303000303700303C00303F00309B00309C,
     0x0030A00030A00030FB0030FC00319000319F0031C00031E50031EF0031EF00322000325F,
     0x00327F0032CF0032FF0032FF0033580033FF004DC0004DFF00A70000A72100A78800A78A,
     0x00A83000A83900A92E00A92E00A9CF00A9CF00AB5B00AB5B00AB6A00AB6B00FD3E00FD3F,
     0x00FE1000FE1900FE3000FE5200FE5400FE6600FE6800FE6B00FEFF00FEFF00FF0100FF20,
     0x00FF3B00FF4000FF5B00FF6500FF7000FF7000FF9E00FF9F00FFE000FFE600FFE800FFEE,
     0x00FFF900FFFD01010001010201010701013301013701013F01019001019C0101D00101FC,
     0x0102E10102FB01BCA001BCA301CC0001CCF901CD0001CEB301CF5001CFC301D00001D0F5,
     0x01D10001D12601D12901D16601D16A01D17A01D18301D18401D18C01D1A901D1AE01D1EA,
     0x01D2C001D2D301D2E001D2F301D30001D35601D36001D37801D40001D45401D45601D49C,
     0x01D49E01D49F01D4A201D4A201D4A501D4A601D4A901D4AC01D4AE01D4B901D4BB01D4BB,
     0x01D4BD01D4C301D4C501D50501D50701D50A01D50D01D51401D51601D51C01D51E01D539,
     0x01D53B01D53E01D54001D54401D54601D54601D54A01D55001D55201D6A501D6A801D7CB,
     0x01D7CE01D7FF01EC7101ECB401ED0101ED3D01F00001F02B01F03001F09301F0A001F0AE,
     0x01F0B101F0BF01F0C101F0CF01F0D101F0F501F10001F1AD01F1E601F1FF01F20101F202,
     0x01F21001F23B01F24001F24801F25001F25101F26001F26501F30001F6D701F6DC01F6EC,
     0x01F6F001F6FC01F70001F77601F77B01F7D901F7E001F7EB01F7F001F7F001F80001F80B,
     0x01F81001F84701F85001F85901F86001F88701F89001F8AD01F8B001F8BB01F8C001F8C1,
     0x01F90001FA5301FA6001FA6D01FA7001FA7C01FA8001FA8901FA8F01FAC601FACE01FADC,
     0x01FADF01FAE901FAF001FAF801FB0001FB9201FB9401FBF90E00010E00010E00200E007F]),
  (["copt", "qaac", "coptic"],
    [0x0003E20003EF002C80002CF3002CF9002CFF]),
  (["xsux", "cuneiform"],
    [0x01200001239901240001246E012470012474012480012543]),
  (["cprt", "cypriot"],
    [0x01080001080501080801080801080A01083501083701083801083C01083C01083F01083F]),
  (["cpmn", "cyprominoan"],
    [0x012F90012FF2]),
  (["cyrl", "cyrillic"],
    [0x00040000048400048700052F001C80001C8A001D2B001D2B001D78001D78002DE0002DFF,
     0x00A64000A69F00FE2E00FE2F01E03001E06D01E08F01E08F]),
  (["dsrt", "deseret"],
    [0x01040001044F]),
  (["deva", "devanagari"],
    [0x00090000095000095500096300096600097F00A8E000A8FF011B00011B09]),
  (["diak", "divesakuru"],
    [0x01190001190601190901190901190C011913011915011916011918011935011937011938,
     0x01193B011946011950011959]),
  (["dogr", "dogra"],
    [0x01180001183B]),
  (["dupl", "duployan"],
    [0x01BC0001BC6A01BC7001BC7C01BC8001BC8801BC9001BC9901BC9C01BC9F]),
  (["egyp", "egyptianhieroglyphs"],
    [0x0130000134550134600143FA]),
  (["elba", "elbasan"],
    [0x010500010527]),
  (["elym", "elymaic"],
    [0x010FE0010FF6]),
  (["ethi", "ethiopic"],
    [0x00120000124800124A00124D00125000125600125800125800125A00125D001260001288,
     0x00128A00128D0012900012B00012B20012B50012B80012BE0012C00012C00012C20012C5,
     0x0012C80012D60012D800131000131200131500131800135A00135D00137C001380001399,
     0x002D80002D96002DA0002DA6002DA8002DAE002DB0002DB6002DB8002DBE002DC0002DC6,
     0x002DC8002DCE002DD0002DD6002DD8002DDE00AB0100AB0600AB0900AB0E00AB1100AB16,
     0x00AB2000AB2600AB2800AB2E01E7E001E7E601E7E801E7EB01E7ED01E7EE01E7F001E7FE]),
  (["gara", "garay"],
    [0x010D40010D65010D69010D85010D8E010D8F]),
  (["geor", "georgian"],
    [0x0010A00010C50010C70010C70010CD0010CD0010D00010FA0010FC0010FF001C90001CBA,
     0x001CBD001CBF002D00002D25002D27002D27002D2D002D2D]),
  (["glag", "glagolitic"],
    [0x002C00002C5F01E00001E00601E00801E01801E01B01E02101E02301E02401E02601E02A]),
  (["goth", "gothic"],
    [0x01033001034A]),
  (["gran", "grantha"],
    [0x01130001130301130501130C01130F01131001131301132801132A011330011332011333,
     0x01133501133901133C01134401134701134801134B01134D011350011350011357011357,
     0x01135D01136301136601136C011370011374]),
  (["grek", "greek"],
    [0x00037000037300037500037700037A00037D00037F00037F000384000384000386000386,
     0x00038800038A00038C00038C00038E0003A10003A30003E10003F00003FF001D26001D2A,
     0x001D5D001D61001D66001D6A001DBF001DBF001F00001F15001F18001F1D001F20001F45,
     0x001F48001F4D001F50001F57001F59001F59001F5B001F5B001F5D001F5D001F5F001F7D,
     0x001F80001FB4001FB6001FC4001FC6001FD3001FD6001FDB001FDD001FEF001FF2001FF4,
     0x001FF6001FFE00212600212600AB6500AB6501014001018E0101A00101A001D20001D245]),
  (["gujr", "gujarati"],
    [0x000A81000A83000A85000A8D000A8F000A91000A93000AA8000AAA000AB0000AB2000AB3,
     0x000AB5000AB9000ABC000AC5000AC7000AC9000ACB000ACD000AD0000AD0000AE0000AE3,
     0x000AE6000AF1000AF9000AFF]),
  (["gong", "gunjalagondi"],
    [0x011D60011D65011D67011D68011D6A011D8E011D90011D91011D93011D98011DA0011DA9]),
  (["guru", "gurmukhi"],
    [0x000A01000A03000A05000A0A000A0F000A10000A13000A28000A2A000A30000A32000A33,
     0x000A35000A36000A38000A39000A3C000A3C000A3E000A42000A47000A48000A4B000A4D,
     0x000A51000A51000A59000A5C000A5E000A5E000A66000A76])]

/-- The scripts from `Gurung_Khema` to `Kirat_Rai`. -/
def fromGurungKhema : List (List String × PackedRanges) := [
  (["gukh", "gurungkhema"],
    [0x016100016139]),
  (["han", "hani"],
    [0x002E80002E99002E9B002EF3002F00002FD5003005003005003007003007003021003029,
     0x00303800303B003400004DBF004E00009FFF00F90000FA6D00FA7000FAD9016FE2016FE3,
     0x016FF0016FF102000002A6DF02A70002B73902B74002B81D02B82002CEA102CEB002EBE0,
     0x02EBF002EE5D02F80002FA1D03000003134A0313500323AF]),
  (["hang", "hangul"],
    [0x0011000011FF00302E00302F00313100318E00320000321E00326000327E00A96000A97C,
     0x00AC0000D7A300D7B000D7C600D7CB00D7FB00FFA000FFBE00FFC200FFC700FFCA00FFCF,
     0x00FFD200FFD700FFDA00FFDC]),
  (["rohg", "hanifirohingya"],
    [0x010D00010D27010D30010D39]),
  (["hano", "hanunoo"],
    [0x001720001734]),
  (["hatr", "hatran"],
    [0x0108E00108F20108F40108F50108FB0108FF]),
  (["hebr", "hebrew"],
    [0x0005910005C70005D00005EA0005EF0005F400FB1D00FB3600FB3800FB3C00FB3E00FB3E,
     0x00FB4000FB4100FB4300FB4400FB4600FB4F]),
  (["hira", "hiragana"],
    [0x00304100309600309D00309F01B00101B11F01B13201B13201B15001B15201F20001F200]),
  (["armi", "imperialaramaic"],
    [0x01084001085501085701085F]),
  (["qaai", "zinh", "inherited"],
    [0x00030000036F00048500048600064B000655000670000670000951000954001AB0001ACE,
     0x001CD0001CD2001CD4001CE0001CE2001CE8001CED001CED001CF4001CF4001CF8001CF9,
     0x001DC0001DFF00200C00200D0020D00020F000302A00302D00309900309A00FE0000FE0F,
     0x00FE2000FE2D0101FD0101FD0102E00102E001133B01133B01CF0001CF2D01CF3001CF46,
     0x01D16701D16901D17B01D18201D18501D18B01D1AA01D1AD0E01000E01EF]),
  (["phli", "inscriptionalpahlavi"],
    [0x010B60010B72010B78010B7F]),
  (["prti", "inscriptionalparthian"],
    [0x010B40010B55010B58010B5F]),
  (["java", "javanese"],
    [0x00A98000A9CD00A9D000A9D900A9DE00A9DF]),
  (["kthi", "kaithi"],
    [0x0110800110C20110CD0110CD]),
  (["knda", "kannada"],
    [0x000C80000C8C000C8E000C90000C92000CA8000CAA000CB3000CB5000CB9000CBC000CC4,
     0x000CC6000CC8000CCA000CCD000CD5000CD6000CDD000CDE000CE0000CE3000CE6000CEF,
     0x000CF1000CF3]),
  (["kana", "katakana"],
    [0x0030A10030FA0030FD0030FF0031F00031FF0032D00032FE00330000335700FF6600FF6F,
     0x00FF7100FF9D01AFF001AFF301AFF501AFFB01AFFD01AFFE01B00001B00001B12001B122,
     0x01B15501B15501B16401B167]),
  (["kawi"],
    [0x011F00011F10011F12011F3A011F3E011F5A]),
  (["kali", "kayahli"],
    [0x00A90000A92D00A92F00A92F]),
  (["khar", "kharoshthi"],
    [0x010A00010A03010A05010A06010A0C010A13010A15010A17010A19010A35010A38010A3A,
     0x010A3F010A48010A50010A58]),
  (["kits", "khitansmallscript"],
    [0x016FE4016FE4018B00018CD5018CFF018CFF]),
  (["khmr", "khmer"],
    [0x0017800017DD0017E00017E90017F00017F90019E00019FF]),
  (["khoj", "khojki"],
    [0x011200011211011213011241]),
  (["sind", "khudawadi"],
    [0x0112B00112EA0112F00112F9]),
  (["krai", "kiratrai"],
    [0x016D40016D79])]

/-- The scripts from `Lao` to `Mongolian`. -/
def fromLao : List (List String × PackedRanges) := [
  (["lao", "laoo"],
    [0x000E81000E82000E84000E84000E86000E8A000E8C000EA3000EA5000EA5000EA7000EBD,
     0x000EC0000EC4000EC6000EC6000EC8000ECE000ED0000ED9000EDC000EDF]),
  (["latn", "latin"],
    [0x00004100005A00006100007A0000AA0000AA0000BA0000BA0000C00000D60000D80000F6,
     0x0000F80002B80002E00002E4001D00001D25001D2C001D5C001D62001D65001D6B001D77,
     0x001D79001DBE001E00001EFF00207100207100207F00207F00209000209C00212A00212B,
     0x00213200213200214E00214E002160002188002C60002C7F00A72200A78700A78B00A7CD,
     0x00A7D000A7D100A7D300A7D300A7D500A7DC00A7F200A7FF00AB3000AB5A00AB5C00AB64,
     0x00AB6600AB6900FB0000FB0600FF2100FF3A00FF4100FF5A0107800107850107870107B0,
     0x0107B20107BA01DF0001DF1E01DF2501DF2A]),
  (["lepc", "lepcha"],
    [0x001C00001C37001C3B001C49001C4D001C4F]),
  (["limb", "limbu"],
    [0x00190000191E00192000192B00193000193B00194000194000194400194F]),
  (["lina", "lineara"],
    [0x010600010736010740010755010760010767]),
  (["linb", "linearb"],
    [0x01000001000B01000D01002601002801003A01003C01003D01003F01004D01005001005D,
     0x0100800100FA]),
  (["lisu"],
    [0x00A4D000A4FF011FB0011FB0]),
  (["lyci", "lycian"],
    [0x01028001029C]),
  (["lydi", "lydian"],
    [0x01092001093901093F01093F]),
  (["mahj", "mahajani"],
    [0x011150011176]),
  (["maka", "makasar"],
    [0x011EE0011EF8]),
  (["mlym", "malayalam"],
    [0x000D00000D0C000D0E000D10000D12000D44000D46000D48000D4A000D4F000D54000D63,
     0x000D66000D7F]),
  (["mand", "mandaic"],
    [0x00084000085B00085E00085E]),
  (["mani", "manichaean"],
    [0x010AC0010AE6010AEB010AF6]),
  (["marc", "marchen"],
    [0x011C70011C8F011C92011CA7011CA9011CB6]),
  (["gonm", "masaramgondi"],
    [0x011D00011D06011D08011D09011D0B011D36011D3A011D3A011D3C011D3D011D3F011D47,
     0x011D50011D59]),
  (["medf", "medefaidrin"],
    [0x016E40016E9A]),
  (["mtei", "meeteimayek"],
    [0x00AAE000AAF600ABC000ABED00ABF000ABF9]),
  (["mend", "mendekikakui"],
    [0x01E80001E8C401E8C701E8D6]),
  (["merc", "meroiticcursive"],
    [0x0109A00109B70109BC0109CF0109D20109FF]),
  (["mero", "meroitichieroglyphs"],
    [0x01098001099F]),
  (["miao", "plrd"],
    [0x016F00016F4A016F4F016F87016F8F016F9F]),
  (["modi"],
    [0x011600011644011650011659]),
  (["mong", "mongolian"],
    [0x0018000018010018040018040018060018190018200018780018800018AA01166001166C])]

/-- The scripts from `Mro` to `Oriya`. -/
def fromMro : List (List String × PackedRanges) := [
  (["mro", "mroo"],
    [0x016A40016A5E016A60016A69016A6E016A6F]),
  (["mult", "multani"],
    [0x01128001128601128801128801128A01128D01128F01129D01129F0112A9]),
  (["mymr", "myanmar"],
    [0x00100000109F00A9E000A9FE00AA6000AA7F0116D00116E3]),
  (["nbat", "nabataean"],
    [0x01088001089E0108A70108AF]),
  (["nagm", "nagmundari"],
    [0x01E4D001E4F9]),
  (["nand", "nandinagari"],
    [0x0119A00119A70119AA0119D70119DA0119E4]),
  (["talu", "newtailue"],
    [0x0019800019AB0019B00019C90019D00019DA0019DE0019DF]),
  (["newa"],
    [0x01140001145B01145D011461]),
  (["nko", "nkoo"],
    [0x0007C00007FA0007FD0007FF]),
  (["nshu", "nushu"],
    [0x016FE1016FE101B17001B2FB]),
  (["hmnp", "nyiakengpuachuehmong"],
    [0x01E10001E12C01E13001E13D01E14001E14901E14E01E14F]),
  (["ogam", "ogham"],
    [0x00168000169C]),
  (["olck", "olchiki"],
    [0x001C50001C7F]),
  (["onao", "olonal"],
    [0x01E5D001E5FA01E5FF01E5FF]),
  (["hung", "oldhungarian"],
    [0x010C80010CB2010CC0010CF2010CFA010CFF]),
  (["ital", "olditalic"],
    [0x01030001032301032D01032F]),
  (["narb", "oldnortharabian"],
    [0x010A80010A9F]),
  (["perm", "oldpermic"],
    [0x01035001037A]),
  (["xpeo", "oldpersian"],
    [0x0103A00103C30103C80103D5]),
  (["sogo", "oldsogdian"],
    [0x010F00010F27]),
  (["sarb", "oldsoutharabian"],
    [0x010A60010A7F]),
  (["orkh", "oldturkic"],
    [0x010C00010C48]),
  (["ougr", "olduyghur"],
    [0x010F70010F89]),
  (["orya", "oriya"],
    [0x000B01000B03000B05000B0C000B0F000B10000B13000B28000B2A000B30000B32000B33,
     0x000B35000B39000B3C000B44000B47000B48000B4B000B4D000B55000B57000B5C000B5D,
     0x000B5F000B63000B66000B77])]

/-- The scripts from `Osage` to `Syriac`. -/
def fromOsage : List (List String × PackedRanges) := [
  (["osge", "osage"],
    [0x0104B00104D30104D80104FB]),
  (["osma", "osmanya"],
    [0x01048001049D0104A00104A9]),
  (["hmng", "pahawhhmong"],
    [0x016B00016B45016B50016B59016B5B016B61016B63016B77016B7D016B8F]),
  (["palm", "palmyrene"],
    [0x01086001087F]),
  (["pauc", "paucinhau"],
    [0x011AC0011AF8]),
  (["phag", "phagspa"],
    [0x00A84000A877]),
  (["phnx", "phoenician"],
    [0x01090001091B01091F01091F]),
  (["phlp", "psalterpahlavi"],
    [0x010B80010B91010B99010B9C010BA9010BAF]),
  (["rjng", "rejang"],
    [0x00A93000A95300A95F00A95F]),
  (["runr", "runic"],
    [0x0016A00016EA0016EE0016F8]),
  (["samr", "samaritan"],
    [0x00080000082D00083000083E]),
  (["saur", "saurashtra"],
    [0x00A88000A8C500A8CE00A8D9]),
  (["shrd", "sharada"],
    [0x0111800111DF]),
  (["shaw", "shavian"],
    [0x01045001047F]),
  (["sidd", "siddham"],
    [0x0115800115B50115B80115DD]),
  (["sgnw", "signwriting"],
    [0x01D80001DA8B01DA9B01DA9F01DAA101DAAF]),
  (["sinh", "sinhala"],
    [0x000D81000D83000D85000D96000D9A000DB1000DB3000DBB000DBD000DBD000DC0000DC6,
     0x000DCA000DCA000DCF000DD4000DD6000DD6000DD8000DDF000DE6000DEF000DF2000DF4,
     0x0111E10111F4]),
  (["sogd", "sogdian"],
    [0x010F30010F59]),
  (["sora", "sorasompeng"],
    [0x0110D00110E80110F00110F9]),
  (["soyo", "soyombo"],
    [0x011A50011AA2]),
  (["sund", "sundanese"],
    [0x001B80001BBF001CC0001CC7]),
  (["sunu", "sunuwar"],
    [0x011BC0011BE1011BF0011BF9]),
  (["sylo", "sylotinagri"],
    [0x00A80000A82C]),
  (["syrc", "syriac"],
    [0x00070000070D00070F00074A00074D00074F00086000086A])]

/-- The scripts from `Tagalog` to `Yezidi`. -/
def fromTagalog : List (List String × PackedRanges) := [
  (["tglg", "tagalog"],
    [0x00170000171500171F00171F]),
  (["tagb", "tagbanwa"],
    [0x00176000176C00176E001770001772001773]),
  (["tale", "taile"],
    [0x00195000196D001970001974]),
  (["lana", "taitham"],
    [0x001A20001A5E001A60001A7C001A7F001A89001A90001A99001AA0001AAD]),
  (["tavt", "taiviet"],
    [0x00AA8000AAC200AADB00AADF]),
  (["takr", "takri"],
    [0x0116800116B90116C00116C9]),
  (["taml", "tamil"],
    [0x000B82000B83000B85000B8A000B8E000B90000B92000B95000B99000B9A000B9C000B9C,
     0x000B9E000B9F000BA3000BA4000BA8000BAA000BAE000BB9000BBE000BC2000BC6000BC8,
     0x000BCA000BCD000BD0000BD0000BD7000BD7000BE6000BFA011FC0011FF1011FFF011FFF]),
  (["tnsa", "tangsa"],
    [0x016A70016ABE016AC0016AC9]),
  (["tang", "tangut"],
    [0x016FE0016FE00170000187F7018800018AFF018D00018D08]),
  (["telu", "telugu"],
    [0x000C00000C0C000C0E000C10000C12000C28000C2A000C39000C3C000C44000C46000C48,
     0x000C4A000C4D000C55000C56000C58000C5A000C5D000C5D000C60000C63000C66000C6F,
     0x000C77000C7F]),
  (["thaa", "thaana"],
    [0x0007800007B1]),
  (["thai"],
    [0x000E01000E3A000E40000E5B]),
  (["tibt", "tibetan"],
    [0x000F00000F47000F49000F6C000F71000F97000F99000FBC000FBE000FCC000FCE000FD4,
     0x000FD9000FDA]),
  (["tfng", "tifinagh"],
    [0x002D30002D67002D6F002D70002D7F002D7F]),
  (["tirh", "tirhuta"],
    [0x0114800114C70114D00114D9]),
  (["todr", "todhri"],
    [0x0105C00105F3]),
  (["toto"],
    [0x01E29001E2AE]),
  (["tutg", "tulutigalari"],
    [0x01138001138901138B01138B01138E01138E0113900113B50113B70113C00113C20113C2,
     0x0113C50113C50113C70113CA0113CC0113D50113D70113D80113E10113E2]),
  (["ugar", "ugaritic"],
    [0x01038001039D01039F01039F]),
  (["vai", "vaii"],
    [0x00A50000A62B]),
  (["vith", "vithkuqi"],
    [0x01057001057A01057C01058A01058C0105920105940105950105970105A10105A30105B1,
     0x0105B30105B90105BB0105BC]),
  (["wcho", "wancho"],
    [0x01E2C001E2F901E2FF01E2FF]),
  (["wara", "warangciti"],
    [0x0118A00118F20118FF0118FF]),
  (["yezi", "yezidi"],
    [0x010E80010EA9010EAB010EAD010EB0010EB1])]

/-- The scripts from `Yi` to `Zanabazar_Square`. -/
def fromYi : List (List String × PackedRanges) := [
  (["yi", "yiii"],
    [0x00A00000A48C00A49000A4C6]),
  (["zanb", "zanabazarsquare"],
    [0x011A00011A47])]

/-- The tables under the loosely matched names of their scripts. -/
def byName : List (List String × PackedRanges) :=
  fromAdlam ++
    fromCommon ++
    fromGurungKhema ++
    fromLao ++
    fromMro ++
    fromOsage ++
    fromTagalog ++
    fromYi

end Script

end Unicode

end Scopelight
