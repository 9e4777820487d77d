import Scopelight.Unicode.Ranges

/-!
# Properties of emoji

Yes-or-no properties that concern pictographs, as packed range tables.
-/

namespace Scopelight

namespace Unicode

namespace Emoji

def emoji : PackedRanges :=
  [0x00002300002300002A00002A0000300000390000A90000A90000AE0000AE00203C00203C,
   0x0020490020490021220021220021390021390021940021990021A90021AA00231A00231B,
   0x0023280023280023CF0023CF0023E90023F30023F80023FA0024C20024C20025AA0025AB,
   0x0025B60025B60025C00025C00025FB0025FE00260000260400260E00260E002611002611,
   0x00261400261500261800261800261D00261D002620002620002622002623002626002626,
   0x00262A00262A00262E00262F00263800263A002640002640002642002642002648002653,
   0x00265F00266000266300266300266500266600266800266800267B00267B00267E00267F,
   0x00269200269700269900269900269B00269C0026A00026A10026A70026A70026AA0026AB,
   0x0026B00026B10026BD0026BE0026C40026C50026C80026C80026CE0026CF0026D10026D1,
   0x0026D30026D40026E90026EA0026F00026F50026F70026FA0026FD0026FD002702002702,
   0x00270500270500270800270D00270F00270F002712002712002714002714002716002716,
   0x00271D00271D002721002721002728002728002733002734002744002744002747002747,
   0x00274C00274C00274E00274E002753002755002757002757002763002764002795002797,
   0x0027A10027A10027B00027B00027BF0027BF002934002935002B05002B07002B1B002B1C,
   0x002B50002B50002B55002B5500303000303000303D00303D003297003297003299003299,
   0x01F00401F00401F0CF01F0CF01F17001F17101F17E01F17F01F18E01F18E01F19101F19A,
   0x01F1E601F1FF01F20101F20201F21A01F21A01F22F01F22F01F23201F23A01F25001F251,
   0x01F30001F32101F32401F39301F39601F39701F39901F39B01F39E01F3F001F3F301F3F5,
   0x01F3F701F4FD01F4FF01F53D01F54901F54E01F55001F56701F56F01F57001F57301F57A,
   0x01F58701F58701F58A01F58D01F59001F59001F59501F59601F5A401F5A501F5A801F5A8,
   0x01F5B101F5B201F5BC01F5BC01F5C201F5C401F5D101F5D301F5DC01F5DE01F5E101F5E1,
   0x01F5E301F5E301F5E801F5E801F5EF01F5EF01F5F301F5F301F5FA01F64F01F68001F6C5,
   0x01F6CB01F6D201F6D501F6D701F6DC01F6E501F6E901F6E901F6EB01F6EC01F6F001F6F0,
   0x01F6F301F6FC01F7E001F7EB01F7F001F7F001F90C01F93A01F93C01F94501F94701F9FF,
   0x01FA7001FA7C01FA8001FA8901FA8F01FAC601FACE01FADC01FADF01FAE901FAF001FAF8]

def emojiComponent : PackedRanges :=
  [0x00002300002300002A00002A00003000003900200D00200D0020E30020E300FE0F00FE0F,
   0x01F1E601F1FF01F3FB01F3FF01F9B001F9B30E00200E007F]

def emojiModifier : PackedRanges :=
  [0x01F3FB01F3FF]

def emojiModifierBase : PackedRanges :=
  [0x00261D00261D0026F90026F900270A00270D01F38501F38501F3C201F3C401F3C701F3C7,
   0x01F3CA01F3CC01F44201F44301F44601F45001F46601F47801F47C01F47C01F48101F483,
   0x01F48501F48701F48F01F48F01F49101F49101F4AA01F4AA01F57401F57501F57A01F57A,
   0x01F59001F59001F59501F59601F64501F64701F64B01F64F01F6A301F6A301F6B401F6B6,
   0x01F6C001F6C001F6CC01F6CC01F90C01F90C01F90F01F90F01F91801F91F01F92601F926,
   0x01F93001F93901F93C01F93E01F97701F97701F9B501F9B601F9B801F9B901F9BB01F9BB,
   0x01F9CD01F9CF01F9D101F9DD01FAC301FAC501FAF001FAF8]

def emojiPresentation : PackedRanges :=
  [0x00231A00231B0023E90023EC0023F00023F00023F30023F30025FD0025FE002614002615,
   0x00264800265300267F00267F0026930026930026A10026A10026AA0026AB0026BD0026BE,
   0x0026C40026C50026CE0026CE0026D40026D40026EA0026EA0026F20026F30026F50026F5,
   0x0026FA0026FA0026FD0026FD00270500270500270A00270B00272800272800274C00274C,
   0x00274E00274E0027530027550027570027570027950027970027B00027B00027BF0027BF,
   0x002B1B002B1C002B50002B50002B55002B5501F00401F00401F0CF01F0CF01F18E01F18E,
   0x01F19101F19A01F1E601F1FF01F20101F20101F21A01F21A01F22F01F22F01F23201F236,
   0x01F23801F23A01F25001F25101F30001F32001F32D01F33501F33701F37C01F37E01F393,
   0x01F3A001F3CA01F3CF01F3D301F3E001F3F001F3F401F3F401F3F801F43E01F44001F440,
   0x01F44201F4FC01F4FF01F53D01F54B01F54E01F55001F56701F57A01F57A01F59501F596,
   0x01F5A401F5A401F5FB01F64F01F68001F6C501F6CC01F6CC01F6D001F6D201F6D501F6D7,
   0x01F6DC01F6DF01F6EB01F6EC01F6F401F6FC01F7E001F7EB01F7F001F7F001F90C01F93A,
   0x01F93C01F94501F94701F9FF01FA7001FA7C01FA8001FA8901FA8F01FAC601FACE01FADC,
   0x01FADF01FAE901FAF001FAF8]

def extendedPictographic : PackedRanges :=
  [0x0000A90000A90000AE0000AE00203C00203C002049002049002122002122002139002139,
   0x0021940021990021A90021AA00231A00231B0023280023280023880023880023CF0023CF,
   0x0023E90023F30023F80023FA0024C20024C20025AA0025AB0025B60025B60025C00025C0,
   0x0025FB0025FE002600002605002607002612002614002685002690002705002708002712,
   0x00271400271400271600271600271D00271D002721002721002728002728002733002734,
   0x00274400274400274700274700274C00274C00274E00274E002753002755002757002757,
   0x0027630027670027950027970027A10027A10027B00027B00027BF0027BF002934002935,
   0x002B05002B07002B1B002B1C002B50002B50002B55002B5500303000303000303D00303D,
   0x00329700329700329900329901F00001F0FF01F10D01F10F01F12F01F12F01F16C01F171,
   0x01F17E01F17F01F18E01F18E01F19101F19A01F1AD01F1E501F20101F20F01F21A01F21A,
   0x01F22F01F22F01F23201F23A01F23C01F23F01F24901F3FA01F40001F53D01F54601F64F,
   0x01F68001F6FF01F77401F77F01F7D501F7FF01F80C01F80F01F84801F84F01F85A01F85F,
   0x01F88801F88F01F8AE01F8FF01F90C01F93A01F93C01F94501F94701FAFF01FC0001FFFD]

def regionalIndicator : PackedRanges :=
  [0x01F1E601F1FF]

/-- The tables of this module under the loosely matched names of their properties. -/
def byName : List (List String × PackedRanges) := [
  (["emoji"], emoji),
  (["ecomp", "emojicomponent"], emojiComponent),
  (["emod", "emojimodifier"], emojiModifier),
  (["ebase", "emojimodifierbase"], emojiModifierBase),
  (["epres", "emojipresentation"], emojiPresentation),
  (["extpict", "extendedpictographic"], extendedPictographic),
  (["ri", "regionalindicator"], regionalIndicator)]

end Emoji

end Unicode

end Scopelight
