import Scopelight.Unicode.Ranges

/-!
# Grapheme cluster breaks

The values of the property that says where a text may be cut between what readers take
for characters, as packed range tables.  The two kinds of whole Hangul syllables follow
a rule and are not listed.
-/

namespace Scopelight

namespace Unicode

namespace GraphemeBreak

def carriageReturn : PackedRanges :=
  [0x00000D00000D]

def control : PackedRanges :=
  [0x00000000000900000B00000C00000E00001F00007F00009F0000AD0000AD00061C00061C,
   0x00180E00180E00200B00200B00200E00200F00202800202E00206000206F00FEFF00FEFF,
   0x00FFF000FFFB01343001343F01BCA001BCA301D17301D17A0E00000E001F0E00800E00FF,
   0x0E01F00E0FFF]

def extend : PackedRanges :=
  [0x00030000036F0004830004890005910005BD0005BF0005BF0005C10005C20005C40005C5,
   0x0005C70005C700061000061A00064B00065F0006700006700006D60006DC0006DF0006E4,
   0x0006E70006E80006EA0006ED00071100071100073000074A0007A60007B00007EB0007F3,
   0x0007FD0007FD00081600081900081B00082300082500082700082900082D00085900085B,
   0x00089700089F0008CA0008E10008E300090200093A00093A00093C00093C000941000948,
   0x00094D00094D0009510009570009620009630009810009810009BC0009BC0009BE0009BE,
   0x0009C10009C40009CD0009CD0009D70009D70009E20009E30009FE0009FE000A01000A02,
   0x000A3C000A3C000A41000A42000A47000A48000A4B000A4D000A51000A51000A70000A71,
   0x000A75000A75000A81000A82000ABC000ABC000AC1000AC5000AC7000AC8000ACD000ACD,
   0x000AE2000AE3000AFA000AFF000B01000B01000B3C000B3C000B3E000B3F000B41000B44,
   0x000B4D000B4D000B55000B57000B62000B63000B82000B82000BBE000BBE000BC0000BC0,
   0x000BCD000BCD000BD7000BD7000C00000C00000C04000C04000C3C000C3C000C3E000C40,
   0x000C46000C48000C4A000C4D000C55000C56000C62000C63000C81000C81000CBC000CBC,
   0x000CBF000CC0000CC2000CC2000CC6000CC8000CCA000CCD000CD5000CD6000CE2000CE3,
   0x000D00000D01000D3B000D3C000D3E000D3E000D41000D44000D4D000D4D000D57000D57,
   0x000D62000D63000D81000D81000DCA000DCA000DCF000DCF000DD2000DD4000DD6000DD6,
   0x000DDF000DDF000E31000E31000E34000E3A000E47000E4E000EB1000EB1000EB4000EBC,
   0x000EC8000ECE000F18000F19000F35000F35000F37000F37000F39000F39000F71000F7E,
   0x000F80000F84000F86000F87000F8D000F97000F99000FBC000FC6000FC600102D001030,
   0x00103200103700103900103A00103D00103E00105800105900105E001060001071001074,
   0x00108200108200108500108600108D00108D00109D00109D00135D00135F001712001715,
   0x0017320017340017520017530017720017730017B40017B50017B70017BD0017C60017C6,
   0x0017C90017D30017DD0017DD00180B00180D00180F00180F0018850018860018A90018A9,
   0x00192000192200192700192800193200193200193900193B001A17001A18001A1B001A1B,
   0x001A56001A56001A58001A5E001A60001A60001A62001A62001A65001A6C001A73001A7C,
   0x001A7F001A7F001AB0001ACE001B00001B03001B34001B3D001B42001B44001B6B001B73,
   0x001B80001B81001BA2001BA5001BA8001BAD001BE6001BE6001BE8001BE9001BED001BED,
   0x001BEF001BF3001C2C001C33001C36001C37001CD0001CD2001CD4001CE0001CE2001CE8,
   0x001CED001CED001CF4001CF4001CF8001CF9001DC0001DFF00200C00200C0020D00020F0,
   0x002CEF002CF1002D7F002D7F002DE0002DFF00302A00302F00309900309A00A66F00A672,
   0x00A67400A67D00A69E00A69F00A6F000A6F100A80200A80200A80600A80600A80B00A80B,
   0x00A82500A82600A82C00A82C00A8C400A8C500A8E000A8F100A8FF00A8FF00A92600A92D,
   0x00A94700A95100A95300A95300A98000A98200A9B300A9B300A9B600A9B900A9BC00A9BD,
   0x00A9C000A9C000A9E500A9E500AA2900AA2E00AA3100AA3200AA3500AA3600AA4300AA43,
   0x00AA4C00AA4C00AA7C00AA7C00AAB000AAB000AAB200AAB400AAB700AAB800AABE00AABF,
   0x00AAC100AAC100AAEC00AAED00AAF600AAF600ABE500ABE500ABE800ABE800ABED00ABED,
   0x00FB1E00FB1E00FE0000FE0F00FE2000FE2F00FF9E00FF9F0101FD0101FD0102E00102E0,
   0x01037601037A010A01010A03010A05010A06010A0C010A0F010A38010A3A010A3F010A3F,
   0x010AE5010AE6010D24010D27010D69010D6D010EAB010EAC010EFC010EFF010F46010F50,
   0x010F82010F8501100101100101103801104601107001107001107301107401107F011081,
   0x0110B30110B60110B90110BA0110C20110C201110001110201112701112B01112D011134,
   0x0111730111730111800111810111B60111BE0111C00111C00111C90111CC0111CF0111CF,
   0x01122F01123101123401123701123E01123E0112410112410112DF0112DF0112E30112EA,
   0x01130001130101133B01133C01133E01133E01134001134001134D01134D011357011357,
   0x01136601136C0113700113740113B80113B80113BB0113C00113C20113C20113C50113C5,
   0x0113C70113C90113CE0113D00113D20113D20113E10113E201143801143F011442011444,
   0x01144601144601145E01145E0114B00114B00114B30114B80114BA0114BA0114BD0114BD,
   0x0114BF0114C00114C20114C30115AF0115AF0115B20115B50115BC0115BD0115BF0115C0,
   0x0115DC0115DD01163301163A01163D01163D01163F0116400116AB0116AB0116AD0116AD,
   0x0116B00116B701171D01171D01171F01171F01172201172501172701172B01182F011837,
   0x01183901183A01193001193001193B01193E0119430119430119D40119D70119DA0119DB,
   0x0119E00119E0011A01011A0A011A33011A38011A3B011A3E011A47011A47011A51011A56,
   0x011A59011A5B011A8A011A96011A98011A99011C30011C36011C38011C3D011C3F011C3F,
   0x011C92011CA7011CAA011CB0011CB2011CB3011CB5011CB6011D31011D36011D3A011D3A,
   0x011D3C011D3D011D3F011D45011D47011D47011D90011D91011D95011D95011D97011D97,
   0x011EF3011EF4011F00011F01011F36011F3A011F40011F42011F5A011F5A013440013440,
   0x01344701345501611E01612901612D01612F016AF0016AF4016B30016B36016F4F016F4F,
   0x016F8F016F92016FE4016FE4016FF0016FF101BC9D01BC9E01CF0001CF2D01CF3001CF46,
   0x01D16501D16901D16D01D17201D17B01D18201D18501D18B01D1AA01D1AD01D24201D244,
   0x01DA0001DA3601DA3B01DA6C01DA7501DA7501DA8401DA8401DA9B01DA9F01DAA101DAAF,
   0x01E00001E00601E00801E01801E01B01E02101E02301E02401E02601E02A01E08F01E08F,
   0x01E13001E13601E2AE01E2AE01E2EC01E2EF01E4EC01E4EF01E5EE01E5EF01E8D001E8D6,
   0x01E94401E94A01F3FB01F3FF0E00200E007F0E01000E01EF]

def leading : PackedRanges :=
  [0x00110000115F00A96000A97C]

def lineFeed : PackedRanges :=
  [0x00000A00000A]

def prepend : PackedRanges :=
  [0x0006000006050006DD0006DD00070F00070F0008900008910008E20008E2000D4E000D4E,
   0x0110BD0110BD0110CD0110CD0111C20111C30113D10113D101193F01193F011941011941,
   0x011A3A011A3A011A84011A89011D46011D46011F02011F02]

def regionalIndicator : PackedRanges :=
  [0x01F1E601F1FF]

def spacingMark : PackedRanges :=
  [0x00090300090300093B00093B00093E00094000094900094C00094E00094F000982000983,
   0x0009BF0009C00009C70009C80009CB0009CC000A03000A03000A3E000A40000A83000A83,
   0x000ABE000AC0000AC9000AC9000ACB000ACC000B02000B03000B40000B40000B47000B48,
   0x000B4B000B4C000BBF000BBF000BC1000BC2000BC6000BC8000BCA000BCC000C01000C03,
   0x000C41000C44000C82000C83000CBE000CBE000CC1000CC1000CC3000CC4000CF3000CF3,
   0x000D02000D03000D3F000D40000D46000D48000D4A000D4C000D82000D83000DD0000DD1,
   0x000DD8000DDE000DF2000DF3000E33000E33000EB3000EB3000F3E000F3F000F7F000F7F,
   0x00103100103100103B00103C0010560010570010840010840017B60017B60017BE0017C5,
   0x0017C70017C800192300192600192900192B001930001931001933001938001A19001A1A,
   0x001A55001A55001A57001A57001A6D001A72001B04001B04001B3E001B41001B82001B82,
   0x001BA1001BA1001BA6001BA7001BE7001BE7001BEA001BEC001BEE001BEE001C24001C2B,
   0x001C34001C35001CE1001CE1001CF7001CF700A82300A82400A82700A82700A88000A881,
   0x00A8B400A8C300A95200A95200A98300A98300A9B400A9B500A9BA00A9BB00A9BE00A9BF,
   0x00AA2F00AA3000AA3300AA3400AA4D00AA4D00AAEB00AAEB00AAEE00AAEF00AAF500AAF5,
   0x00ABE300ABE400ABE600ABE700ABE900ABEA00ABEC00ABEC011000011000011002011002,
   0x0110820110820110B00110B20110B70110B801112C01112C011145011146011182011182,
   0x0111B30111B50111BF0111BF0111CE0111CE01122C01122E0112320112330112E00112E2,
   0x01130201130301133F01133F01134101134401134701134801134B01134C011362011363,
   0x0113B90113BA0113CA0113CA0113CC0113CD011435011437011440011441011445011445,
   0x0114B10114B20114B90114B90114BB0114BC0114BE0114BE0114C10114C10115B00115B1,
   0x0115B80115BB0115BE0115BE01163001163201163B01163C01163E01163E0116AC0116AC,
   0x0116AE0116AF01171E01171E01172601172601182C01182E011838011838011931011935,
   0x0119370119380119400119400119420119420119D10119D30119DC0119DF0119E40119E4,
   0x011A39011A39011A57011A58011A97011A97011C2F011C2F011C3E011C3E011CA9011CA9,
   0x011CB1011CB1011CB4011CB4011D8A011D8E011D93011D94011D96011D96011EF5011EF6,
   0x011F03011F03011F34011F35011F3E011F3F01612A01612C016F51016F87]

def trailing : PackedRanges :=
  [0x0011A80011FF00D7CB00D7FB]

def vowel : PackedRanges :=
  [0x0011600011A700D7B000D7C6016D63016D63016D67016D6A]

def joiner : PackedRanges :=
  [0x00200D00200D]

/-- The tables under the loosely matched names of their values. -/
def byName : List (List String × PackedRanges) := [
  (["cr"], carriageReturn),
  (["cn", "control"], control),
  (["ex", "extend"], extend),
  (["l"], leading),
  (["lf"], lineFeed),
  (["pp", "prepend"], prepend),
  (["ri", "regionalindicator"], regionalIndicator),
  (["sm", "spacingmark"], spacingMark),
  (["t"], trailing),
  (["v"], vowel),
  (["zwj"], joiner)]

/-- The syllables made of two letters: the first of each row of twenty-eight. -/
def openSyllables : List (Nat × Nat) :=
  (List.range 399).map fun row => (0xAC00 + 28 * row, 0xAC00 + 28 * row)

/-- The syllables made of three letters: all of a row but its first. -/
def closedSyllables : List (Nat × Nat) :=
  (List.range 399).map fun row => (0xAC00 + 28 * row + 1, 0xAC00 + 28 * row + 27)

end GraphemeBreak

end Unicode

end Scopelight
