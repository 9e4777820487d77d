import Scopelight.Unicode.Ranges

/-!
# Widths

The code points that do not take one column where characters have a fixed pitch, as packed
range tables.  A wide character takes two.  A character takes none if it does not show, if
it joins the character before it, if it merges into a syllable or if it stretches over the
characters after it.
-/

namespace Scopelight

namespace Unicode

/-- The code points of two columns. -/
def wide : PackedRanges :=
  [0x00110000115F0017A40017A400231A00231B00232900232A0023E90023EC0023F00023F0,
   0x0023F30023F30025FD0025FE00261400261500264800265300267F00267F002693002693,
   0x0026A10026A10026AA0026AB0026BD0026BE0026C40026C50026CE0026CE0026D40026D4,
   0x0026EA0026EA0026F20026F30026F50026F50026FA0026FA0026FD0026FD002705002705,
   0x00270A00270B00272800272800274C00274C00274E00274E002753002755002757002757,
   0x0027950027970027B00027B00027BF0027BF002B1B002B1C002B50002B50002B55002B55,
   0x002E80002E99002E9B002EF3002F00002FD5002FF000302900303000303E003041003096,
   0x00309B0030FF00310500312F00313100316300316500318E0031900031E30031EF00321E,
   0x003220003247003250004DBF004E0000A48C00A49000A4C600A96000A97C00AC0000D7A3,
   0x00F90000FAFF00FE1000FE1900FE3000FE5200FE5400FE6600FE6800FE6B00FF0100FF60,
   0x00FFE000FFE6016FE0016FE3016FF0016FF10170000187F7018800018CD5018D00018D08,
   0x01AFF001AFF301AFF501AFFB01AFFD01AFFE01B00001B12201B13201B13201B15001B152,
   0x01B15501B15501B16401B16701B17001B2FB01F00401F00401F0CF01F0CF01F18E01F18E,
   0x01F19101F19A01F20001F20201F21001F23B01F24001F24801F25001F25101F26001F265,
   0x01F30001F32001F32D01F33501F33701F37C01F37E01F39301F3A001F3CA01F3CF01F3D3,
   0x01F3E001F3F001F3F401F3F401F3F801F43E01F44001F44001F44201F4FC01F4FF01F53D,
   0x01F54B01F54E01F55001F56701F57A01F57A01F59501F59601F5A401F5A401F5FB01F64F,
   0x01F68001F6C501F6CC01F6CC01F6D001F6D201F6D501F6D701F6DC01F6DF01F6EB01F6EC,
   0x01F6F401F6FC01F7E001F7EB01F7F001F7F001F90C01F93A01F93C01F94501F94701F9FF,
   0x01FA7001FA7C01FA8001FA8801FA9001FABD01FABF01FAC501FACE01FADB01FAE001FAE8,
   0x01FAF001FAF802000002FFFD03000003FFFD]

def narrowest : PackedRanges :=
  [0x0000AD0000AD00030000036F0004830004890005910005BD0005BF0005BF0005C10005C2,
   0x0005C40005C50005C70005C700060500060500061000061A00061C00061C00064B00065F,
   0x0006700006700006D60006DC0006DF0006E40006E70006E80006EA0006ED00070F00070F,
   0x00071100071100073000074A0007A60007B00007EB0007F30007FD0007FD000816000819,
   0x00081B00082300082500082700082900082D00085900085B00089000089100089800089F,
   0x0008CA00090200093A00093A00093C00093C00094100094800094D00094D000951000957,
   0x0009620009630009810009810009BC0009BC0009BE0009BE0009C10009C40009CD0009CD,
   0x0009D70009D70009E20009E30009FE0009FE000A01000A02000A3C000A3C000A41000A42,
   0x000A47000A48000A4B000A4D000A51000A51000A70000A71000A75000A75000A81000A82,
   0x000ABC000ABC000AC1000AC5000AC7000AC8000ACD000ACD000AE2000AE3000AFA000AFF,
   0x000B01000B01000B3C000B3C000B3E000B3F000B41000B44000B4D000B4D000B55000B57,
   0x000B62000B63000B82000B82000BBE000BBE000BC0000BC0000BCD000BCD000BD7000BD7,
   0x000C00000C00000C04000C04000C3C000C3C000C3E000C40000C46000C48000C4A000C4D,
   0x000C55000C56000C62000C63000C81000C81000CBC000CBC000CBF000CC0000CC2000CC2,
   0x000CC6000CC8000CCA000CCD000CD5000CD6000CE2000CE3000D00000D01000D3B000D3C,
   0x000D3E000D3E000D41000D44000D4D000D4E000D57000D57000D62000D63000D81000D81,
   0x000DCA000DCA000DCF000DCF000DD2000DD4000DD6000DD6000DDF000DDF000E31000E31,
   0x000E34000E3A000E47000E4E000EB1000EB1000EB4000EBC000EC8000ECE000F18000F19,
   0x000F35000F35000F37000F37000F39000F39000F71000F7E000F80000F84000F86000F87,
   0x000F8D000F97000F99000FBC000FC6000FC600102D00103000103200103700103900103A,
   0x00103D00103E00105800105900105E001060001071001074001082001082001085001086,
   0x00108D00108D00109D00109D0011600011FF00135D00135F001712001714001732001733,
   0x0017520017530017720017730017B40017B50017B70017BD0017C60017C60017C90017D3,
   0x0017DD0017DD00180B00180F0018850018860018A90018A9001920001922001927001928,
   0x00193200193200193900193B001A17001A18001A1B001A1B001A56001A56001A58001A5E,
   0x001A60001A60001A62001A62001A65001A6C001A73001A7C001A7F001A7F001AB0001ACE,
   0x001B00001B03001B34001B3D001B42001B43001B6B001B73001B80001B81001BA2001BA5,
   0x001BA8001BA9001BAB001BAD001BE6001BE6001BE8001BE9001BED001BED001BEF001BF1,
   0x001C2C001C33001C36001C37001CD0001CD2001CD4001CE0001CE2001CE8001CED001CED,
   0x001CF4001CF4001CF8001CF9001DC0001DFF00200B00200F00202A00202E00206000206F,
   0x0020D00020F0002CEF002CF1002DE0002DFF00302A00302F00309900309A003164003164,
   0x00A66F00A67200A67400A67D00A69E00A69F00A6F000A6F100A80200A80200A80600A806,
   0x00A80B00A80B00A82500A82600A82C00A82C00A8C400A8C500A8E000A8F100A8FA00A8FA,
   0x00A8FF00A8FF00A92600A92D00A94700A95100A98000A98200A9B300A9B300A9B600A9B9,
   0x00A9BC00A9BD00A9E500A9E500AA2900AA2E00AA3100AA3200AA3500AA3600AA4300AA43,
   0x00AA4C00AA4C00AA7C00AA7C00AAB000AAB000AAB200AAB400AAB700AAB800AABE00AABF,
   0x00AAC100AAC100AAEC00AAED00AAF600AAF600ABE500ABE500ABE800ABE800ABED00ABED,
   0x00D7B000D7C600D7CB00D7FB00FB1E00FB1E00FE0000FE0F00FE2000FE2F00FEFF00FEFF,
   0x00FF9E00FFA000FFF000FFF80101FD0101FD0102E00102E001037601037A010A01010A03,
   0x010A05010A06010A0C010A0F010A38010A3A010A3F010A3F010AE5010AE6010D24010D27,
   0x010EAB010EAC010EFD010EFF010F46010F50010F82010F85011001011001011038011046,
   0x01107001107001107301107401107F0110810110B30110B60110B90110BA0110C20110C2,
   0x01110001110201112701112B01112D0111340111730111730111800111810111B60111BE,
   0x0111C20111C30111C90111CC0111CF0111CF01122F011231011234011234011236011237,
   0x01123E01123E0112410112410112DF0112DF0112E30112EA01130001130101133B01133C,
   0x01133E01133E01134001134001135701135701136601136C01137001137401143801143F,
   0x01144201144401144601144601145E01145E0114B00114B00114B30114B80114BA0114BA,
   0x0114BD0114BD0114BF0114C00114C20114C30115AF0115AF0115B20115B50115BC0115BD,
   0x0115BF0115C00115DC0115DD01163301163A01163D01163D01163F0116400116AB0116AB,
   0x0116AD0116AD0116B00116B50116B70116B701171D01171F01172201172501172701172B,
   0x01182F01183701183901183A01193001193001193B01193C01193E01193F011941011941,
   0x0119430119430119D40119D70119DA0119DB0119E00119E0011A01011A0A011A33011A38,
   0x011A3A011A3E011A47011A47011A51011A56011A59011A5B011A84011A96011A98011A99,
   0x011C30011C36011C38011C3D011C3F011C3F011C92011CA7011CAA011CB0011CB2011CB3,
   0x011CB5011CB6011D31011D36011D3A011D3A011D3C011D3D011D3F011D47011D90011D91,
   0x011D95011D95011D97011D97011EF3011EF4011F00011F02011F36011F3A011F40011F40,
   0x011F42011F42013440013440013447013455016AF0016AF4016B30016B36016F4F016F4F,
   0x016F8F016F92016FE4016FE401BC9D01BC9E01BCA001BCA301CF0001CF2D01CF3001CF46,
   0x01D16501D16501D16701D16901D16E01D18201D18501D18B01D1AA01D1AD01D24201D244,
   0x01DA0001DA3601DA3B01DA6C01DA7501DA7501DA8401DA8401DA9B01DA9F01DAA101DAAF,
   0x01E00001E00601E00801E01801E01B01E02101E02301E02401E02601E02A01E08F01E08F,
   0x01E13001E13601E2AE01E2AE01E2EC01E2EF01E4EC01E4EF01E8D001E8D601E94401E94A,
   0x0E00000E0FFF]

end Unicode

end Scopelight
