import Scopelight.Unicode.Ranges

/-!
# Additions

Patterns go by one version of the character tables; quoting and lower case go by the next
one, which assigns more code points.  The code points it adds, and the properties that they
bring along, are listed here as packed range tables.
-/

namespace Scopelight

namespace Unicode

namespace Addition

/-- The code points that the next version assigns. -/
def assigned : PackedRanges :=
  [0x00088F00088F000C5C000C5C000CDC000CDC001ACF001ADD001AE0001AEB0020C10020C1,
   0x002B96002B9600A7CE00A7CF00A7D200A7D200A7D400A7D400A7F100A7F100FBC300FBD2,
   0x00FD9000FD9100FDC800FDCE010940010959010EC5010EC7010ED0010ED8010EFA010EFB,
   0x011B60011B67011DB0011DDB011DE0011DE9016EA0016EB8016EBB016ED3016FF2016FF6,
   0x0187F80187FF018D09018D1E018D80018DF201CCFA01CCFC01CEBA01CED001CEE001CEF0,
   0x01E6C001E6DE01E6E001E6F501E6FE01E6FF01F6D801F6D801F77701F77A01F8D001F8D8,
   0x01FA5401FA5701FA8A01FA8A01FA8E01FA8E01FAC801FAC801FACD01FACD01FAEA01FAEA,
   0x01FAEF01FAEF01FBFA01FBFA02B73A02B73F02CEA202CEAD0323B0033479]

def graphemeExtend : PackedRanges :=
  [0x001ACF001ADD001AE0001AEB010EFA010EFB011B60011B60011B62011B64011B66011B66,
   0x01E6E301E6E301E6E601E6E601E6EE01E6EF01E6F501E6F5]

def cased : PackedRanges :=
  [0x00A7CE00A7CF00A7D200A7D200A7D400A7D400A7F100A7F1016EA0016EB8016EBB016ED3]

def caseIgnorable : PackedRanges :=
  [0x001ACF001ADD001AE0001AEB00A7F100A7F1010EC5010EC5010EFA010EFB011B60011B60,
   0x011B62011B64011B66011B66011DD9011DD9016FF2016FF301E6E301E6E301E6E601E6E6,
   0x01E6EE01E6EF01E6F501E6F501E6FF01E6FF]

end Addition

end Unicode

end Scopelight
