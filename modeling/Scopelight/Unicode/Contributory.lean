import Scopelight.Unicode.Ranges

/-!
# Contributory properties

Yes-or-no properties that list the exceptions from which other properties are derived,
as packed range tables.
-/

namespace Scopelight

namespace Unicode

namespace Contributory

def otherAlphabetic : PackedRanges :=
  [0x00034500034500036300036F0005B00005BD0005BF0005BF0005C10005C20005C40005C5,
   0x0005C70005C700061000061A00064B00065700065900065F0006700006700006D60006DC,
   0x0006E10006E40006E70006E80006ED0006ED00071100071100073000073F0007A60007B0,
   0x00081600081700081B00082300082500082700082900082C0008970008970008D40008DF,
   0x0008E30008E90008F000090300093A00093B00093E00094C00094E00094F000955000957,
   0x0009620009630009810009830009BE0009C40009C70009C80009CB0009CC0009D70009D7,
   0x0009E20009E3000A01000A03000A3E000A42000A47000A48000A4B000A4C000A51000A51,
   0x000A70000A71000A75000A75000A81000A83000ABE000AC5000AC7000AC9000ACB000ACC,
   0x000AE2000AE3000AFA000AFC000B01000B03000B3E000B44000B47000B48000B4B000B4C,
   0x000B56000B57000B62000B63000B82000B82000BBE000BC2000BC6000BC8000BCA000BCC,
   0x000BD7000BD7000C00000C04000C3E000C44000C46000C48000C4A000C4C000C55000C56,
   0x000C62000C63000C81000C83000CBE000CC4000CC6000CC8000CCA000CCC000CD5000CD6,
   0x000CE2000CE3000CF3000CF3000D00000D03000D3E000D44000D46000D48000D4A000D4C,
   0x000D57000D57000D62000D63000D81000D83000DCF000DD4000DD6000DD6000DD8000DDF,
   0x000DF2000DF3000E31000E31000E34000E3A000E4D000E4D000EB1000EB1000EB4000EB9,
   0x000EBB000EBC000ECD000ECD000F71000F83000F8D000F97000F99000FBC00102B001036,
   0x00103800103800103B00103E00105600105900105E00106000106200106400106700106D,
   0x00107100107400108200108D00108F00108F00109A00109D001712001713001732001733,
   0x0017520017530017720017730017B60017C80018850018860018A90018A900192000192B,
   0x001930001938001A17001A1B001A55001A5E001A61001A74001ABF001AC0001ACC001ACE,
   0x001B00001B04001B35001B43001B80001B82001BA1001BA9001BAC001BAD001BE7001BF1,
   0x001C24001C36001DD3001DF40024B60024E9002DE0002DFF00A67400A67B00A69E00A69F,
   0x00A80200A80200A80B00A80B00A82300A82700A88000A88100A8B400A8C300A8C500A8C5,
   0x00A8FF00A8FF00A92600A92A00A94700A95200A98000A98300A9B400A9BF00A9E500A9E5,
   0x00AA2900AA3600AA4300AA4300AA4C00AA4D00AA7B00AA7D00AAB000AAB000AAB200AAB4,
   0x00AAB700AAB800AABE00AABE00AAEB00AAEF00AAF500AAF500ABE300ABEA00FB1E00FB1E,
   0x01037601037A010A01010A03010A05010A06010A0C010A0F010D24010D27010D69010D69,
   0x010EAB010EAC010EFC010EFC011000011002011038011045011073011074011080011082,
   0x0110B00110B80110C20110C2011100011102011127011132011145011146011180011182,
   0x0111B30111BF0111CE0111CF01122C01123401123701123701123E01123E011241011241,
   0x0112DF0112E801130001130301133E01134401134701134801134B01134C011357011357,
   0x0113620113630113B80113C00113C20113C20113C50113C50113C70113CA0113CC0113CD,
   0x0114350114410114430114450114B00114C10115AF0115B50115B80115BE0115DC0115DD,
   0x01163001163E0116400116400116AB0116B501171D01172A01182C011838011930011935,
   0x01193701193801193B01193C0119400119400119420119420119D10119D70119DA0119DF,
   0x0119E40119E4011A01011A0A011A35011A39011A3B011A3E011A51011A5B011A8A011A97,
   0x011C2F011C36011C38011C3E011C92011CA7011CA9011CB6011D31011D36011D3A011D3A,
   0x011D3C011D3D011D3F011D41011D43011D43011D47011D47011D8A011D8E011D90011D91,
   0x011D93011D96011EF3011EF6011F00011F01011F03011F03011F34011F3A011F3E011F40,
   0x01611E01612E016F4F016F4F016F51016F87016F8F016F92016FF0016FF101BC9E01BC9E,
   0x01E00001E00601E00801E01801E01B01E02101E02301E02401E02601E02A01E08F01E08F,
   0x01E94701E94701F13001F14901F15001F16901F17001F189]

def otherDefaultIgnorableCodePoint : PackedRanges :=
  [0x00034F00034F00115F0011600017B40017B500206500206500316400316400FFA000FFA0,
   0x00FFF000FFF80E00000E00000E00020E001F0E00800E00FF0E01F00E0FFF]

def otherGraphemeExtend : PackedRanges :=
  [0x0009BE0009BE0009D70009D7000B3E000B3E000B57000B57000BBE000BBE000BD7000BD7,
   0x000CC0000CC0000CC2000CC2000CC7000CC8000CCA000CCB000CD5000CD6000D3E000D3E,
   0x000D57000D57000DCF000DCF000DDF000DDF001715001715001734001734001B35001B35,
   0x001B3B001B3B001B3D001B3D001B43001B44001BAA001BAA001BF2001BF300200C00200C,
   0x00302E00302F00A95300A95300A9C000A9C000FF9E00FF9F0111C00111C0011235011235,
   0x01133E01133E01134D01134D0113570113570113B80113B80113C20113C20113C50113C5,
   0x0113C70113C90113CF0113CF0114B00114B00114BD0114BD0115AF0115AF0116B60116B6,
   0x01193001193001193D01193D011F41011F41016FF0016FF101D16501D16601D16D01D172,
   0x0E00200E007F]

def otherIDContinue : PackedRanges :=
  [0x0000B70000B70003870003870013690013710019DA0019DA00200C00200D0030FB0030FB,
   0x00FF6500FF65]

def otherIDStart : PackedRanges :=
  [0x00188500188600211800211800212E00212E00309B00309C]

def otherLowercase : PackedRanges :=
  [0x0000AA0000AA0000BA0000BA0002B00002B80002C00002C10002E00002E4000345000345,
   0x00037A00037A0010FC0010FC001D2C001D6A001D78001D78001D9B001DBF002071002071,
   0x00207F00207F00209000209C00217000217F0024D00024E9002C7C002C7D00A69C00A69D,
   0x00A77000A77000A7F200A7F400A7F800A7F900AB5C00AB5F00AB6900AB69010780010780,
   0x0107830107850107870107B00107B20107BA01E03001E06D]

def otherMath : PackedRanges :=
  [0x00005E00005E0003D00003D20003D50003D50003F00003F10003F40003F5002016002016,
   0x00203200203400204000204000206100206400207D00207E00208D00208E0020D00020DC,
   0x0020E10020E10020E50020E60020EB0020EF00210200210200210700210700210A002113,
   0x00211500211500211900211D00212400212400212800212900212C00212D00212F002131,
   0x00213300213800213C00213F00214500214900219500219900219C00219F0021A10021A2,
   0x0021A40021A50021A70021A70021A90021AD0021B00021B10021B60021B70021BC0021CD,
   0x0021D00021D10021D30021D30021D50021DB0021DD0021DD0021E40021E500230800230B,
   0x0023B40023B50023B70023B70023D00023D00023E20023E20025A00025A10025AE0025B6,
   0x0025BC0025C00025C60025C70025CA0025CB0025CF0025D30025E20025E20025E40025E4,
   0x0025E70025EC00260500260600264000264000264200264200266000266300266D00266E,
   0x0027C50027C60027E60027EF0029830029980029D80029DB0029FC0029FD00FE6100FE61,
   0x00FE6300FE6300FE6800FE6800FF3C00FF3C00FF3E00FF3E01D40001D45401D45601D49C,
   0x01D49E01D49F01D4A201D4A201D4A501D4A601D4A901D4AC01D4AE01D4B901D4BB01D4BB,
   0x01D4BD01D4C301D4C501D50501D50701D50A01D50D01D51401D51601D51C01D51E01D539,
   0x01D53B01D53E01D54001D54401D54601D54601D54A01D55001D55201D6A501D6A801D6C0,
   0x01D6C201D6DA01D6DC01D6FA01D6FC01D71401D71601D73401D73601D74E01D75001D76E,
   0x01D77001D78801D78A01D7A801D7AA01D7C201D7C401D7CB01D7CE01D7FF01EE0001EE03,
   0x01EE0501EE1F01EE2101EE2201EE2401EE2401EE2701EE2701EE2901EE3201EE3401EE37,
   0x01EE3901EE3901EE3B01EE3B01EE4201EE4201EE4701EE4701EE4901EE4901EE4B01EE4B,
   0x01EE4D01EE4F01EE5101EE5201EE5401EE5401EE5701EE5701EE5901EE5901EE5B01EE5B,
   0x01EE5D01EE5D01EE5F01EE5F01EE6101EE6201EE6401EE6401EE6701EE6A01EE6C01EE72,
   0x01EE7401EE7701EE7901EE7C01EE7E01EE7E01EE8001EE8901EE8B01EE9B01EEA101EEA3,
   0x01EEA501EEA901EEAB01EEBB]

def otherUppercase : PackedRanges :=
  [0x00216000216F0024B60024CF01F13001F14901F15001F16901F17001F189]

/-- The tables of this module under the loosely matched names of their properties. -/
def byName : List (List String × PackedRanges) := [
  (["oalpha", "otheralphabetic"], otherAlphabetic),
  (["odi", "otherdefaultignorablecodepoint"], otherDefaultIgnorableCodePoint),
  (["ogrext", "othergraphemeextend"], otherGraphemeExtend),
  (["oidc", "otheridcontinue"], otherIDContinue),
  (["oids", "otheridstart"], otherIDStart),
  (["olower", "otherlowercase"], otherLowercase),
  (["omath", "othermath"], otherMath),
  (["oupper", "otheruppercase"], otherUppercase)]

end Contributory

end Unicode

end Scopelight
