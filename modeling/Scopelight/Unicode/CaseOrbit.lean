/-!
# Case orbits

Two characters are the same up to case when their simple case foldings agree.  An
orbit is a set of at least two such characters, in ascending order; it is stored as one
number with six hexadecimal digits per code point.
-/

namespace Scopelight

namespace Unicode

namespace CaseOrbit

def asciiPacked : List Nat :=
  [0x000041000061, 0x000042000062, 0x000043000063, 0x000044000064,
   0x000045000065, 0x000046000066, 0x000047000067, 0x000048000068,
   0x000049000069, 0x00004A00006A, 0x00004B00006B00212A, 0x00004C00006C,
   0x00004D00006D, 0x00004E00006E, 0x00004F00006F, 0x000050000070,
   0x000051000071, 0x000052000072, 0x00005300007300017F, 0x000054000074,
   0x000055000075, 0x000056000076, 0x000057000077, 0x000058000078,
   0x000059000079, 0x00005A00007A]

/-- The orbits without an ASCII letter, by their least member. -/
def otherPacked : List Nat :=
  [0x0000B500039C0003BC, 0x0000C00000E0, 0x0000C10000E1, 0x0000C20000E2,
   0x0000C30000E3, 0x0000C40000E4, 0x0000C50000E500212B, 0x0000C60000E6,
   0x0000C70000E7, 0x0000C80000E8, 0x0000C90000E9, 0x0000CA0000EA,
   0x0000CB0000EB, 0x0000CC0000EC, 0x0000CD0000ED, 0x0000CE0000EE,
   0x0000CF0000EF, 0x0000D00000F0, 0x0000D10000F1, 0x0000D20000F2,
   0x0000D30000F3, 0x0000D40000F4, 0x0000D50000F5, 0x0000D60000F6,
   0x0000D80000F8, 0x0000D90000F9, 0x0000DA0000FA, 0x0000DB0000FB,
   0x0000DC0000FC, 0x0000DD0000FD, 0x0000DE0000FE, 0x0000DF001E9E,
   0x0000FF000178, 0x000100000101, 0x000102000103, 0x000104000105,
   0x000106000107, 0x000108000109, 0x00010A00010B, 0x00010C00010D,
   0x00010E00010F, 0x000110000111, 0x000112000113, 0x000114000115,
   0x000116000117, 0x000118000119, 0x00011A00011B, 0x00011C00011D,
   0x00011E00011F, 0x000120000121, 0x000122000123, 0x000124000125,
   0x000126000127, 0x000128000129, 0x00012A00012B, 0x00012C00012D,
   0x00012E00012F, 0x000132000133, 0x000134000135, 0x000136000137,
   0x00013900013A, 0x00013B00013C, 0x00013D00013E, 0x00013F000140,
   0x000141000142, 0x000143000144, 0x000145000146, 0x000147000148,
   0x00014A00014B, 0x00014C00014D, 0x00014E00014F, 0x000150000151,
   0x000152000153, 0x000154000155, 0x000156000157, 0x000158000159,
   0x00015A00015B, 0x00015C00015D, 0x00015E00015F, 0x000160000161,
   0x000162000163, 0x000164000165, 0x000166000167, 0x000168000169,
   0x00016A00016B, 0x00016C00016D, 0x00016E00016F, 0x000170000171,
   0x000172000173, 0x000174000175, 0x000176000177, 0x00017900017A,
   0x00017B00017C, 0x00017D00017E, 0x000180000243, 0x000181000253,
   0x000182000183, 0x000184000185, 0x000186000254, 0x000187000188,
   0x000189000256, 0x00018A000257, 0x00018B00018C, 0x00018E0001DD,
   0x00018F000259, 0x00019000025B, 0x000191000192, 0x000193000260,
   0x000194000263, 0x0001950001F6, 0x000196000269, 0x000197000268,
   0x000198000199, 0x00019A00023D, 0x00019B00A7DC, 0x00019C00026F,
   0x00019D000272, 0x00019E000220, 0x00019F000275, 0x0001A00001A1,
   0x0001A20001A3, 0x0001A40001A5, 0x0001A6000280, 0x0001A70001A8,
   0x0001A9000283, 0x0001AC0001AD, 0x0001AE000288, 0x0001AF0001B0,
   0x0001B100028A, 0x0001B200028B, 0x0001B30001B4, 0x0001B50001B6,
   0x0001B7000292, 0x0001B80001B9, 0x0001BC0001BD, 0x0001BF0001F7,
   0x0001C40001C50001C6, 0x0001C70001C80001C9, 0x0001CA0001CB0001CC, 0x0001CD0001CE,
   0x0001CF0001D0, 0x0001D10001D2, 0x0001D30001D4, 0x0001D50001D6,
   0x0001D70001D8, 0x0001D90001DA, 0x0001DB0001DC, 0x0001DE0001DF,
   0x0001E00001E1, 0x0001E20001E3, 0x0001E40001E5, 0x0001E60001E7,
   0x0001E80001E9, 0x0001EA0001EB, 0x0001EC0001ED, 0x0001EE0001EF,
   0x0001F10001F20001F3, 0x0001F40001F5, 0x0001F80001F9, 0x0001FA0001FB,
   0x0001FC0001FD, 0x0001FE0001FF, 0x000200000201, 0x000202000203,
   0x000204000205, 0x000206000207, 0x000208000209, 0x00020A00020B,
   0x00020C00020D, 0x00020E00020F, 0x000210000211, 0x000212000213,
   0x000214000215, 0x000216000217, 0x000218000219, 0x00021A00021B,
   0x00021C00021D, 0x00021E00021F, 0x000222000223, 0x000224000225,
   0x000226000227, 0x000228000229, 0x00022A00022B, 0x00022C00022D,
   0x00022E00022F, 0x000230000231, 0x000232000233, 0x00023A002C65,
   0x00023B00023C, 0x00023E002C66, 0x00023F002C7E, 0x000240002C7F,
   0x000241000242, 0x000244000289, 0x00024500028C, 0x000246000247,
   0x000248000249, 0x00024A00024B, 0x00024C00024D, 0x00024E00024F,
   0x000250002C6F, 0x000251002C6D, 0x000252002C70, 0x00025C00A7AB,
   0x00026100A7AC, 0x00026400A7CB, 0x00026500A78D, 0x00026600A7AA,
   0x00026A00A7AE, 0x00026B002C62, 0x00026C00A7AD, 0x000271002C6E,
   0x00027D002C64, 0x00028200A7C5, 0x00028700A7B1, 0x00029D00A7B2,
   0x00029E00A7B0, 0x0003450003990003B9001FBE, 0x000370000371, 0x000372000373,
   0x000376000377, 0x00037B0003FD, 0x00037C0003FE, 0x00037D0003FF,
   0x00037F0003F3, 0x0003860003AC, 0x0003880003AD, 0x0003890003AE,
   0x00038A0003AF, 0x00038C0003CC, 0x00038E0003CD, 0x00038F0003CE,
   0x000390001FD3, 0x0003910003B1, 0x0003920003B20003D0, 0x0003930003B3,
   0x0003940003B4, 0x0003950003B50003F5, 0x0003960003B6, 0x0003970003B7,
   0x0003980003B80003D10003F4, 0x00039A0003BA0003F0, 0x00039B0003BB, 0x00039D0003BD,
   0x00039E0003BE, 0x00039F0003BF, 0x0003A00003C00003D6, 0x0003A10003C10003F1,
   0x0003A30003C20003C3, 0x0003A40003C4, 0x0003A50003C5, 0x0003A60003C60003D5,
   0x0003A70003C7, 0x0003A80003C8, 0x0003A90003C9002126, 0x0003AA0003CA,
   0x0003AB0003CB, 0x0003B0001FE3, 0x0003CF0003D7, 0x0003D80003D9,
   0x0003DA0003DB, 0x0003DC0003DD, 0x0003DE0003DF, 0x0003E00003E1,
   0x0003E20003E3, 0x0003E40003E5, 0x0003E60003E7, 0x0003E80003E9,
   0x0003EA0003EB, 0x0003EC0003ED, 0x0003EE0003EF, 0x0003F20003F9,
   0x0003F70003F8, 0x0003FA0003FB, 0x000400000450, 0x000401000451,
   0x000402000452, 0x000403000453, 0x000404000454, 0x000405000455,
   0x000406000456, 0x000407000457, 0x000408000458, 0x000409000459,
   0x00040A00045A, 0x00040B00045B, 0x00040C00045C, 0x00040D00045D,
   0x00040E00045E, 0x00040F00045F, 0x000410000430, 0x000411000431,
   0x000412000432001C80, 0x000413000433, 0x000414000434001C81, 0x000415000435,
   0x000416000436, 0x000417000437, 0x000418000438, 0x000419000439,
   0x00041A00043A, 0x00041B00043B, 0x00041C00043C, 0x00041D00043D,
   0x00041E00043E001C82, 0x00041F00043F, 0x000420000440, 0x000421000441001C83,
   0x000422000442001C84001C85, 0x000423000443, 0x000424000444, 0x000425000445,
   0x000426000446, 0x000427000447, 0x000428000448, 0x000429000449,
   0x00042A00044A001C86, 0x00042B00044B, 0x00042C00044C, 0x00042D00044D,
   0x00042E00044E, 0x00042F00044F, 0x000460000461, 0x000462000463001C87,
   0x000464000465, 0x000466000467, 0x000468000469, 0x00046A00046B,
   0x00046C00046D, 0x00046E00046F, 0x000470000471, 0x000472000473,
   0x000474000475, 0x000476000477, 0x000478000479, 0x00047A00047B,
   0x00047C00047D, 0x00047E00047F, 0x000480000481, 0x00048A00048B,
   0x00048C00048D, 0x00048E00048F, 0x000490000491, 0x000492000493,
   0x000494000495, 0x000496000497, 0x000498000499, 0x00049A00049B,
   0x00049C00049D, 0x00049E00049F, 0x0004A00004A1, 0x0004A20004A3,
   0x0004A40004A5, 0x0004A60004A7, 0x0004A80004A9, 0x0004AA0004AB,
   0x0004AC0004AD, 0x0004AE0004AF, 0x0004B00004B1, 0x0004B20004B3,
   0x0004B40004B5, 0x0004B60004B7, 0x0004B80004B9, 0x0004BA0004BB,
   0x0004BC0004BD, 0x0004BE0004BF, 0x0004C00004CF, 0x0004C10004C2,
   0x0004C30004C4, 0x0004C50004C6, 0x0004C70004C8, 0x0004C90004CA,
   0x0004CB0004CC, 0x0004CD0004CE, 0x0004D00004D1, 0x0004D20004D3,
   0x0004D40004D5, 0x0004D60004D7, 0x0004D80004D9, 0x0004DA0004DB,
   0x0004DC0004DD, 0x0004DE0004DF, 0x0004E00004E1, 0x0004E20004E3,
   0x0004E40004E5, 0x0004E60004E7, 0x0004E80004E9, 0x0004EA0004EB,
   0x0004EC0004ED, 0x0004EE0004EF, 0x0004F00004F1, 0x0004F20004F3,
   0x0004F40004F5, 0x0004F60004F7, 0x0004F80004F9, 0x0004FA0004FB,
   0x0004FC0004FD, 0x0004FE0004FF, 0x000500000501, 0x000502000503,
   0x000504000505, 0x000506000507, 0x000508000509, 0x00050A00050B,
   0x00050C00050D, 0x00050E00050F, 0x000510000511, 0x000512000513,
   0x000514000515, 0x000516000517, 0x000518000519, 0x00051A00051B,
   0x00051C00051D, 0x00051E00051F, 0x000520000521, 0x000522000523,
   0x000524000525, 0x000526000527, 0x000528000529, 0x00052A00052B,
   0x00052C00052D, 0x00052E00052F, 0x000531000561, 0x000532000562,
   0x000533000563, 0x000534000564, 0x000535000565, 0x000536000566,
   0x000537000567, 0x000538000568, 0x000539000569, 0x00053A00056A,
   0x00053B00056B, 0x00053C00056C, 0x00053D00056D, 0x00053E00056E,
   0x00053F00056F, 0x000540000570, 0x000541000571, 0x000542000572,
   0x000543000573, 0x000544000574, 0x000545000575, 0x000546000576,
   0x000547000577, 0x000548000578, 0x000549000579, 0x00054A00057A,
   0x00054B00057B, 0x00054C00057C, 0x00054D00057D, 0x00054E00057E,
   0x00054F00057F, 0x000550000580, 0x000551000581, 0x000552000582,
   0x000553000583, 0x000554000584, 0x000555000585, 0x000556000586,
   0x0010A0002D00, 0x0010A1002D01, 0x0010A2002D02, 0x0010A3002D03,
   0x0010A4002D04, 0x0010A5002D05, 0x0010A6002D06, 0x0010A7002D07,
   0x0010A8002D08, 0x0010A9002D09, 0x0010AA002D0A, 0x0010AB002D0B,
   0x0010AC002D0C, 0x0010AD002D0D, 0x0010AE002D0E, 0x0010AF002D0F,
   0x0010B0002D10, 0x0010B1002D11, 0x0010B2002D12, 0x0010B3002D13,
   0x0010B4002D14, 0x0010B5002D15, 0x0010B6002D16, 0x0010B7002D17,
   0x0010B8002D18, 0x0010B9002D19, 0x0010BA002D1A, 0x0010BB002D1B,
   0x0010BC002D1C, 0x0010BD002D1D, 0x0010BE002D1E, 0x0010BF002D1F,
   0x0010C0002D20, 0x0010C1002D21, 0x0010C2002D22, 0x0010C3002D23,
   0x0010C4002D24, 0x0010C5002D25, 0x0010C7002D27, 0x0010CD002D2D,
   0x0010D0001C90, 0x0010D1001C91, 0x0010D2001C92, 0x0010D3001C93,
   0x0010D4001C94, 0x0010D5001C95, 0x0010D6001C96, 0x0010D7001C97,
   0x0010D8001C98, 0x0010D9001C99, 0x0010DA001C9A, 0x0010DB001C9B,
   0x0010DC001C9C, 0x0010DD001C9D, 0x0010DE001C9E, 0x0010DF001C9F,
   0x0010E0001CA0, 0x0010E1001CA1, 0x0010E2001CA2, 0x0010E3001CA3,
   0x0010E4001CA4, 0x0010E5001CA5, 0x0010E6001CA6, 0x0010E7001CA7,
   0x0010E8001CA8, 0x0010E9001CA9, 0x0010EA001CAA, 0x0010EB001CAB,
   0x0010EC001CAC, 0x0010ED001CAD, 0x0010EE001CAE, 0x0010EF001CAF,
   0x0010F0001CB0, 0x0010F1001CB1, 0x0010F2001CB2, 0x0010F3001CB3,
   0x0010F4001CB4, 0x0010F5001CB5, 0x0010F6001CB6, 0x0010F7001CB7,
   0x0010F8001CB8, 0x0010F9001CB9, 0x0010FA001CBA, 0x0010FD001CBD,
   0x0010FE001CBE, 0x0010FF001CBF, 0x0013A000AB70, 0x0013A100AB71,
   0x0013A200AB72, 0x0013A300AB73, 0x0013A400AB74, 0x0013A500AB75,
   0x0013A600AB76, 0x0013A700AB77, 0x0013A800AB78, 0x0013A900AB79,
   0x0013AA00AB7A, 0x0013AB00AB7B, 0x0013AC00AB7C, 0x0013AD00AB7D,
   0x0013AE00AB7E, 0x0013AF00AB7F, 0x0013B000AB80, 0x0013B100AB81,
   0x0013B200AB82, 0x0013B300AB83, 0x0013B400AB84, 0x0013B500AB85,
   0x0013B600AB86, 0x0013B700AB87, 0x0013B800AB88, 0x0013B900AB89,
   0x0013BA00AB8A, 0x0013BB00AB8B, 0x0013BC00AB8C, 0x0013BD00AB8D,
   0x0013BE00AB8E, 0x0013BF00AB8F, 0x0013C000AB90, 0x0013C100AB91,
   0x0013C200AB92, 0x0013C300AB93, 0x0013C400AB94, 0x0013C500AB95,
   0x0013C600AB96, 0x0013C700AB97, 0x0013C800AB98, 0x0013C900AB99,
   0x0013CA00AB9A, 0x0013CB00AB9B, 0x0013CC00AB9C, 0x0013CD00AB9D,
   0x0013CE00AB9E, 0x0013CF00AB9F, 0x0013D000ABA0, 0x0013D100ABA1,
   0x0013D200ABA2, 0x0013D300ABA3, 0x0013D400ABA4, 0x0013D500ABA5,
   0x0013D600ABA6, 0x0013D700ABA7, 0x0013D800ABA8, 0x0013D900ABA9,
   0x0013DA00ABAA, 0x0013DB00ABAB, 0x0013DC00ABAC, 0x0013DD00ABAD,
   0x0013DE00ABAE, 0x0013DF00ABAF, 0x0013E000ABB0, 0x0013E100ABB1,
   0x0013E200ABB2, 0x0013E300ABB3, 0x0013E400ABB4, 0x0013E500ABB5,
   0x0013E600ABB6, 0x0013E700ABB7, 0x0013E800ABB8, 0x0013E900ABB9,
   0x0013EA00ABBA, 0x0013EB00ABBB, 0x0013EC00ABBC, 0x0013ED00ABBD,
   0x0013EE00ABBE, 0x0013EF00ABBF, 0x0013F00013F8, 0x0013F10013F9,
   0x0013F20013FA, 0x0013F30013FB, 0x0013F40013FC, 0x0013F50013FD,
   0x001C8800A64A00A64B, 0x001C89001C8A, 0x001D7900A77D, 0x001D7D002C63,
   0x001D8E00A7C6, 0x001E00001E01, 0x001E02001E03, 0x001E04001E05,
   0x001E06001E07, 0x001E08001E09, 0x001E0A001E0B, 0x001E0C001E0D,
   0x001E0E001E0F, 0x001E10001E11, 0x001E12001E13, 0x001E14001E15,
   0x001E16001E17, 0x001E18001E19, 0x001E1A001E1B, 0x001E1C001E1D,
   0x001E1E001E1F, 0x001E20001E21, 0x001E22001E23, 0x001E24001E25,
   0x001E26001E27, 0x001E28001E29, 0x001E2A001E2B, 0x001E2C001E2D,
   0x001E2E001E2F, 0x001E30001E31, 0x001E32001E33, 0x001E34001E35,
   0x001E36001E37, 0x001E38001E39, 0x001E3A001E3B, 0x001E3C001E3D,
   0x001E3E001E3F, 0x001E40001E41, 0x001E42001E43, 0x001E44001E45,
   0x001E46001E47, 0x001E48001E49, 0x001E4A001E4B, 0x001E4C001E4D,
   0x001E4E001E4F, 0x001E50001E51, 0x001E52001E53, 0x001E54001E55,
   0x001E56001E57, 0x001E58001E59, 0x001E5A001E5B, 0x001E5C001E5D,
   0x001E5E001E5F, 0x001E60001E61001E9B, 0x001E62001E63, 0x001E64001E65,
   0x001E66001E67, 0x001E68001E69, 0x001E6A001E6B, 0x001E6C001E6D,
   0x001E6E001E6F, 0x001E70001E71, 0x001E72001E73, 0x001E74001E75,
   0x001E76001E77, 0x001E78001E79, 0x001E7A001E7B, 0x001E7C001E7D,
   0x001E7E001E7F, 0x001E80001E81, 0x001E82001E83, 0x001E84001E85,
   0x001E86001E87, 0x001E88001E89, 0x001E8A001E8B, 0x001E8C001E8D,
   0x001E8E001E8F, 0x001E90001E91, 0x001E92001E93, 0x001E94001E95,
   0x001EA0001EA1, 0x001EA2001EA3, 0x001EA4001EA5, 0x001EA6001EA7,
   0x001EA8001EA9, 0x001EAA001EAB, 0x001EAC001EAD, 0x001EAE001EAF,
   0x001EB0001EB1, 0x001EB2001EB3, 0x001EB4001EB5, 0x001EB6001EB7,
   0x001EB8001EB9, 0x001EBA001EBB, 0x001EBC001EBD, 0x001EBE001EBF,
   0x001EC0001EC1, 0x001EC2001EC3, 0x001EC4001EC5, 0x001EC6001EC7,
   0x001EC8001EC9, 0x001ECA001ECB, 0x001ECC001ECD, 0x001ECE001ECF,
   0x001ED0001ED1, 0x001ED2001ED3, 0x001ED4001ED5, 0x001ED6001ED7,
   0x001ED8001ED9, 0x001EDA001EDB, 0x001EDC001EDD, 0x001EDE001EDF,
   0x001EE0001EE1, 0x001EE2001EE3, 0x001EE4001EE5, 0x001EE6001EE7,
   0x001EE8001EE9, 0x001EEA001EEB, 0x001EEC001EED, 0x001EEE001EEF,
   0x001EF0001EF1, 0x001EF2001EF3, 0x001EF4001EF5, 0x001EF6001EF7,
   0x001EF8001EF9, 0x001EFA001EFB, 0x001EFC001EFD, 0x001EFE001EFF,
   0x001F00001F08, 0x001F01001F09, 0x001F02001F0A, 0x001F03001F0B,
   0x001F04001F0C, 0x001F05001F0D, 0x001F06001F0E, 0x001F07001F0F,
   0x001F10001F18, 0x001F11001F19, 0x001F12001F1A, 0x001F13001F1B,
   0x001F14001F1C, 0x001F15001F1D, 0x001F20001F28, 0x001F21001F29,
   0x001F22001F2A, 0x001F23001F2B, 0x001F24001F2C, 0x001F25001F2D,
   0x001F26001F2E, 0x001F27001F2F, 0x001F30001F38, 0x001F31001F39,
   0x001F32001F3A, 0x001F33001F3B, 0x001F34001F3C, 0x001F35001F3D,
   0x001F36001F3E, 0x001F37001F3F, 0x001F40001F48, 0x001F41001F49,
   0x001F42001F4A, 0x001F43001F4B, 0x001F44001F4C, 0x001F45001F4D,
   0x001F51001F59, 0x001F53001F5B, 0x001F55001F5D, 0x001F57001F5F,
   0x001F60001F68, 0x001F61001F69, 0x001F62001F6A, 0x001F63001F6B,
   0x001F64001F6C, 0x001F65001F6D, 0x001F66001F6E, 0x001F67001F6F,
   0x001F70001FBA, 0x001F71001FBB, 0x001F72001FC8, 0x001F73001FC9,
   0x001F74001FCA, 0x001F75001FCB, 0x001F76001FDA, 0x001F77001FDB,
   0x001F78001FF8, 0x001F79001FF9, 0x001F7A001FEA, 0x001F7B001FEB,
   0x001F7C001FFA, 0x001F7D001FFB, 0x001F80001F88, 0x001F81001F89,
   0x001F82001F8A, 0x001F83001F8B, 0x001F84001F8C, 0x001F85001F8D,
   0x001F86001F8E, 0x001F87001F8F, 0x001F90001F98, 0x001F91001F99,
   0x001F92001F9A, 0x001F93001F9B, 0x001F94001F9C, 0x001F95001F9D,
   0x001F96001F9E, 0x001F97001F9F, 0x001FA0001FA8, 0x001FA1001FA9,
   0x001FA2001FAA, 0x001FA3001FAB, 0x001FA4001FAC, 0x001FA5001FAD,
   0x001FA6001FAE, 0x001FA7001FAF, 0x001FB0001FB8, 0x001FB1001FB9,
   0x001FB3001FBC, 0x001FC3001FCC, 0x001FD0001FD8, 0x001FD1001FD9,
   0x001FE0001FE8, 0x001FE1001FE9, 0x001FE5001FEC, 0x001FF3001FFC,
   0x00213200214E, 0x002160002170, 0x002161002171, 0x002162002172,
   0x002163002173, 0x002164002174, 0x002165002175, 0x002166002176,
   0x002167002177, 0x002168002178, 0x002169002179, 0x00216A00217A,
   0x00216B00217B, 0x00216C00217C, 0x00216D00217D, 0x00216E00217E,
   0x00216F00217F, 0x002183002184, 0x0024B60024D0, 0x0024B70024D1,
   0x0024B80024D2, 0x0024B90024D3, 0x0024BA0024D4, 0x0024BB0024D5,
   0x0024BC0024D6, 0x0024BD0024D7, 0x0024BE0024D8, 0x0024BF0024D9,
   0x0024C00024DA, 0x0024C10024DB, 0x0024C20024DC, 0x0024C30024DD,
   0x0024C40024DE, 0x0024C50024DF, 0x0024C60024E0, 0x0024C70024E1,
   0x0024C80024E2, 0x0024C90024E3, 0x0024CA0024E4, 0x0024CB0024E5,
   0x0024CC0024E6, 0x0024CD0024E7, 0x0024CE0024E8, 0x0024CF0024E9,
   0x002C00002C30, 0x002C01002C31, 0x002C02002C32, 0x002C03002C33,
   0x002C04002C34, 0x002C05002C35, 0x002C06002C36, 0x002C07002C37,
   0x002C08002C38, 0x002C09002C39, 0x002C0A002C3A, 0x002C0B002C3B,
   0x002C0C002C3C, 0x002C0D002C3D, 0x002C0E002C3E, 0x002C0F002C3F,
   0x002C10002C40, 0x002C11002C41, 0x002C12002C42, 0x002C13002C43,
   0x002C14002C44, 0x002C15002C45, 0x002C16002C46, 0x002C17002C47,
   0x002C18002C48, 0x002C19002C49, 0x002C1A002C4A, 0x002C1B002C4B,
   0x002C1C002C4C, 0x002C1D002C4D, 0x002C1E002C4E, 0x002C1F002C4F,
   0x002C20002C50, 0x002C21002C51, 0x002C22002C52, 0x002C23002C53,
   0x002C24002C54, 0x002C25002C55, 0x002C26002C56, 0x002C27002C57,
   0x002C28002C58, 0x002C29002C59, 0x002C2A002C5A, 0x002C2B002C5B,
   0x002C2C002C5C, 0x002C2D002C5D, 0x002C2E002C5E, 0x002C2F002C5F,
   0x002C60002C61, 0x002C67002C68, 0x002C69002C6A, 0x002C6B002C6C,
   0x002C72002C73, 0x002C75002C76, 0x002C80002C81, 0x002C82002C83,
   0x002C84002C85, 0x002C86002C87, 0x002C88002C89, 0x002C8A002C8B,
   0x002C8C002C8D, 0x002C8E002C8F, 0x002C90002C91, 0x002C92002C93,
   0x002C94002C95, 0x002C96002C97, 0x002C98002C99, 0x002C9A002C9B,
   0x002C9C002C9D, 0x002C9E002C9F, 0x002CA0002CA1, 0x002CA2002CA3,
   0x002CA4002CA5, 0x002CA6002CA7, 0x002CA8002CA9, 0x002CAA002CAB,
   0x002CAC002CAD, 0x002CAE002CAF, 0x002CB0002CB1, 0x002CB2002CB3,
   0x002CB4002CB5, 0x002CB6002CB7, 0x002CB8002CB9, 0x002CBA002CBB,
   0x002CBC002CBD, 0x002CBE002CBF, 0x002CC0002CC1, 0x002CC2002CC3,
   0x002CC4002CC5, 0x002CC6002CC7, 0x002CC8002CC9, 0x002CCA002CCB,
   0x002CCC002CCD, 0x002CCE002CCF, 0x002CD0002CD1, 0x002CD2002CD3,
   0x002CD4002CD5, 0x002CD6002CD7, 0x002CD8002CD9, 0x002CDA002CDB,
   0x002CDC002CDD, 0x002CDE002CDF, 0x002CE0002CE1, 0x002CE2002CE3,
   0x002CEB002CEC, 0x002CED002CEE, 0x002CF2002CF3, 0x00A64000A641,
   0x00A64200A643, 0x00A64400A645, 0x00A64600A647, 0x00A64800A649,
   0x00A64C00A64D, 0x00A64E00A64F, 0x00A65000A651, 0x00A65200A653,
   0x00A65400A655, 0x00A65600A657, 0x00A65800A659, 0x00A65A00A65B,
   0x00A65C00A65D, 0x00A65E00A65F, 0x00A66000A661, 0x00A66200A663,
   0x00A66400A665, 0x00A66600A667, 0x00A66800A669, 0x00A66A00A66B,
   0x00A66C00A66D, 0x00A68000A681, 0x00A68200A683, 0x00A68400A685,
   0x00A68600A687, 0x00A68800A689, 0x00A68A00A68B, 0x00A68C00A68D,
   0x00A68E00A68F, 0x00A69000A691, 0x00A69200A693, 0x00A69400A695,
   0x00A69600A697, 0x00A69800A699, 0x00A69A00A69B, 0x00A72200A723,
   0x00A72400A725, 0x00A72600A727, 0x00A72800A729, 0x00A72A00A72B,
   0x00A72C00A72D, 0x00A72E00A72F, 0x00A73200A733, 0x00A73400A735,
   0x00A73600A737, 0x00A73800A739, 0x00A73A00A73B, 0x00A73C00A73D,
   0x00A73E00A73F, 0x00A74000A741, 0x00A74200A743, 0x00A74400A745,
   0x00A74600A747, 0x00A74800A749, 0x00A74A00A74B, 0x00A74C00A74D,
   0x00A74E00A74F, 0x00A75000A751, 0x00A75200A753, 0x00A75400A755,
   0x00A75600A757, 0x00A75800A759, 0x00A75A00A75B, 0x00A75C00A75D,
   0x00A75E00A75F, 0x00A76000A761, 0x00A76200A763, 0x00A76400A765,
   0x00A76600A767, 0x00A76800A769, 0x00A76A00A76B, 0x00A76C00A76D,
   0x00A76E00A76F, 0x00A77900A77A, 0x00A77B00A77C, 0x00A77E00A77F,
   0x00A78000A781, 0x00A78200A783, 0x00A78400A785, 0x00A78600A787,
   0x00A78B00A78C, 0x00A79000A791, 0x00A79200A793, 0x00A79400A7C4,
   0x00A79600A797, 0x00A79800A799, 0x00A79A00A79B, 0x00A79C00A79D,
   0x00A79E00A79F, 0x00A7A000A7A1, 0x00A7A200A7A3, 0x00A7A400A7A5,
   0x00A7A600A7A7, 0x00A7A800A7A9, 0x00A7B300AB53, 0x00A7B400A7B5,
   0x00A7B600A7B7, 0x00A7B800A7B9, 0x00A7BA00A7BB, 0x00A7BC00A7BD,
   0x00A7BE00A7BF, 0x00A7C000A7C1, 0x00A7C200A7C3, 0x00A7C700A7C8,
   0x00A7C900A7CA, 0x00A7CC00A7CD, 0x00A7D000A7D1, 0x00A7D600A7D7,
   0x00A7D800A7D9, 0x00A7DA00A7DB, 0x00A7F500A7F6, 0x00FB0500FB06,
   0x00FF2100FF41, 0x00FF2200FF42, 0x00FF2300FF43, 0x00FF2400FF44,
   0x00FF2500FF45, 0x00FF2600FF46, 0x00FF2700FF47, 0x00FF2800FF48,
   0x00FF2900FF49, 0x00FF2A00FF4A, 0x00FF2B00FF4B, 0x00FF2C00FF4C,
   0x00FF2D00FF4D, 0x00FF2E00FF4E, 0x00FF2F00FF4F, 0x00FF3000FF50,
   0x00FF3100FF51, 0x00FF3200FF52, 0x00FF3300FF53, 0x00FF3400FF54,
   0x00FF3500FF55, 0x00FF3600FF56, 0x00FF3700FF57, 0x00FF3800FF58,
   0x00FF3900FF59, 0x00FF3A00FF5A, 0x010400010428, 0x010401010429,
   0x01040201042A, 0x01040301042B, 0x01040401042C, 0x01040501042D,
   0x01040601042E, 0x01040701042F, 0x010408010430, 0x010409010431,
   0x01040A010432, 0x01040B010433, 0x01040C010434, 0x01040D010435,
   0x01040E010436, 0x01040F010437, 0x010410010438, 0x010411010439,
   0x01041201043A, 0x01041301043B, 0x01041401043C, 0x01041501043D,
   0x01041601043E, 0x01041701043F, 0x010418010440, 0x010419010441,
   0x01041A010442, 0x01041B010443, 0x01041C010444, 0x01041D010445,
   0x01041E010446, 0x01041F010447, 0x010420010448, 0x010421010449,
   0x01042201044A, 0x01042301044B, 0x01042401044C, 0x01042501044D,
   0x01042601044E, 0x01042701044F, 0x0104B00104D8, 0x0104B10104D9,
   0x0104B20104DA, 0x0104B30104DB, 0x0104B40104DC, 0x0104B50104DD,
   0x0104B60104DE, 0x0104B70104DF, 0x0104B80104E0, 0x0104B90104E1,
   0x0104BA0104E2, 0x0104BB0104E3, 0x0104BC0104E4, 0x0104BD0104E5,
   0x0104BE0104E6, 0x0104BF0104E7, 0x0104C00104E8, 0x0104C10104E9,
   0x0104C20104EA, 0x0104C30104EB, 0x0104C40104EC, 0x0104C50104ED,
   0x0104C60104EE, 0x0104C70104EF, 0x0104C80104F0, 0x0104C90104F1,
   0x0104CA0104F2, 0x0104CB0104F3, 0x0104CC0104F4, 0x0104CD0104F5,
   0x0104CE0104F6, 0x0104CF0104F7, 0x0104D00104F8, 0x0104D10104F9,
   0x0104D20104FA, 0x0104D30104FB, 0x010570010597, 0x010571010598,
   0x010572010599, 0x01057301059A, 0x01057401059B, 0x01057501059C,
   0x01057601059D, 0x01057701059E, 0x01057801059F, 0x0105790105A0,
   0x01057A0105A1, 0x01057C0105A3, 0x01057D0105A4, 0x01057E0105A5,
   0x01057F0105A6, 0x0105800105A7, 0x0105810105A8, 0x0105820105A9,
   0x0105830105AA, 0x0105840105AB, 0x0105850105AC, 0x0105860105AD,
   0x0105870105AE, 0x0105880105AF, 0x0105890105B0, 0x01058A0105B1,
   0x01058C0105B3, 0x01058D0105B4, 0x01058E0105B5, 0x01058F0105B6,
   0x0105900105B7, 0x0105910105B8, 0x0105920105B9, 0x0105940105BB,
   0x0105950105BC, 0x010C80010CC0, 0x010C81010CC1, 0x010C82010CC2,
   0x010C83010CC3, 0x010C84010CC4, 0x010C85010CC5, 0x010C86010CC6,
   0x010C87010CC7, 0x010C88010CC8, 0x010C89010CC9, 0x010C8A010CCA,
   0x010C8B010CCB, 0x010C8C010CCC, 0x010C8D010CCD, 0x010C8E010CCE,
   0x010C8F010CCF, 0x010C90010CD0, 0x010C91010CD1, 0x010C92010CD2,
   0x010C93010CD3, 0x010C94010CD4, 0x010C95010CD5, 0x010C96010CD6,
   0x010C97010CD7, 0x010C98010CD8, 0x010C99010CD9, 0x010C9A010CDA,
   0x010C9B010CDB, 0x010C9C010CDC, 0x010C9D010CDD, 0x010C9E010CDE,
   0x010C9F010CDF, 0x010CA0010CE0, 0x010CA1010CE1, 0x010CA2010CE2,
   0x010CA3010CE3, 0x010CA4010CE4, 0x010CA5010CE5, 0x010CA6010CE6,
   0x010CA7010CE7, 0x010CA8010CE8, 0x010CA9010CE9, 0x010CAA010CEA,
   0x010CAB010CEB, 0x010CAC010CEC, 0x010CAD010CED, 0x010CAE010CEE,
   0x010CAF010CEF, 0x010CB0010CF0, 0x010CB1010CF1, 0x010CB2010CF2,
   0x010D50010D70, 0x010D51010D71, 0x010D52010D72, 0x010D53010D73,
   0x010D54010D74, 0x010D55010D75, 0x010D56010D76, 0x010D57010D77,
   0x010D58010D78, 0x010D59010D79, 0x010D5A010D7A, 0x010D5B010D7B,
   0x010D5C010D7C, 0x010D5D010D7D, 0x010D5E010D7E, 0x010D5F010D7F,
   0x010D60010D80, 0x010D61010D81, 0x010D62010D82, 0x010D63010D83,
   0x010D64010D84, 0x010D65010D85, 0x0118A00118C0, 0x0118A10118C1,
   0x0118A20118C2, 0x0118A30118C3, 0x0118A40118C4, 0x0118A50118C5,
   0x0118A60118C6, 0x0118A70118C7, 0x0118A80118C8, 0x0118A90118C9,
   0x0118AA0118CA, 0x0118AB0118CB, 0x0118AC0118CC, 0x0118AD0118CD,
   0x0118AE0118CE, 0x0118AF0118CF, 0x0118B00118D0, 0x0118B10118D1,
   0x0118B20118D2, 0x0118B30118D3, 0x0118B40118D4, 0x0118B50118D5,
   0x0118B60118D6, 0x0118B70118D7, 0x0118B80118D8, 0x0118B90118D9,
   0x0118BA0118DA, 0x0118BB0118DB, 0x0118BC0118DC, 0x0118BD0118DD,
   0x0118BE0118DE, 0x0118BF0118DF, 0x016E40016E60, 0x016E41016E61,
   0x016E42016E62, 0x016E43016E63, 0x016E44016E64, 0x016E45016E65,
   0x016E46016E66, 0x016E47016E67, 0x016E48016E68, 0x016E49016E69,
   0x016E4A016E6A, 0x016E4B016E6B, 0x016E4C016E6C, 0x016E4D016E6D,
   0x016E4E016E6E, 0x016E4F016E6F, 0x016E50016E70, 0x016E51016E71,
   0x016E52016E72, 0x016E53016E73, 0x016E54016E74, 0x016E55016E75,
   0x016E56016E76, 0x016E57016E77, 0x016E58016E78, 0x016E59016E79,
   0x016E5A016E7A, 0x016E5B016E7B, 0x016E5C016E7C, 0x016E5D016E7D,
   0x016E5E016E7E, 0x016E5F016E7F, 0x01E90001E922, 0x01E90101E923,
   0x01E90201E924, 0x01E90301E925, 0x01E90401E926, 0x01E90501E927,
   0x01E90601E928, 0x01E90701E929, 0x01E90801E92A, 0x01E90901E92B,
   0x01E90A01E92C, 0x01E90B01E92D, 0x01E90C01E92E, 0x01E90D01E92F,
   0x01E90E01E930, 0x01E90F01E931, 0x01E91001E932, 0x01E91101E933,
   0x01E91201E934, 0x01E91301E935, 0x01E91401E936, 0x01E91501E937,
   0x01E91601E938, 0x01E91701E939, 0x01E91801E93A, 0x01E91901E93B,
   0x01E91A01E93C, 0x01E91B01E93D, 0x01E91C01E93E, 0x01E91D01E93F,
   0x01E91E01E940, 0x01E91F01E941, 0x01E92001E942, 0x01E92101E943]

end CaseOrbit

end Unicode

end Scopelight
