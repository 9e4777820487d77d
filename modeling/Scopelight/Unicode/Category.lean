import Scopelight.Unicode.Ranges

/-!
# General categories

The code points of each general category, surrogates left out, as packed range
tables, and the larger classes that are unions of them.
-/

namespace Scopelight

namespace Unicode

namespace Category

/-- Category `Lu`. -/
def uppercaseLetter : PackedRanges :=
  [0x00004100005A0000C00000D60000D80000DE000100000100000102000102000104000104,
   0x00010600010600010800010800010A00010A00010C00010C00010E00010E000110000110,
   0x00011200011200011400011400011600011600011800011800011A00011A00011C00011C,
   0x00011E00011E000120000120000122000122000124000124000126000126000128000128,
   0x00012A00012A00012C00012C00012E00012E000130000130000132000132000134000134,
   0x00013600013600013900013900013B00013B00013D00013D00013F00013F000141000141,
   0x00014300014300014500014500014700014700014A00014A00014C00014C00014E00014E,
   0x00015000015000015200015200015400015400015600015600015800015800015A00015A,
   0x00015C00015C00015E00015E000160000160000162000162000164000164000166000166,
   0x00016800016800016A00016A00016C00016C00016E00016E000170000170000172000172,
   0x00017400017400017600017600017800017900017B00017B00017D00017D000181000182,
   0x00018400018400018600018700018900018B00018E000191000193000194000196000198,
   0x00019C00019D00019F0001A00001A20001A20001A40001A40001A60001A70001A90001A9,
   0x0001AC0001AC0001AE0001AF0001B10001B30001B50001B50001B70001B80001BC0001BC,
   0x0001C40001C40001C70001C70001CA0001CA0001CD0001CD0001CF0001CF0001D10001D1,
   0x0001D30001D30001D50001D50001D70001D70001D90001D90001DB0001DB0001DE0001DE,
   0x0001E00001E00001E20001E20001E40001E40001E60001E60001E80001E80001EA0001EA,
   0x0001EC0001EC0001EE0001EE0001F10001F10001F40001F40001F60001F80001FA0001FA,
   0x0001FC0001FC0001FE0001FE000200000200000202000202000204000204000206000206,
   0x00020800020800020A00020A00020C00020C00020E00020E000210000210000212000212,
   0x00021400021400021600021600021800021800021A00021A00021C00021C00021E00021E,
   0x00022000022000022200022200022400022400022600022600022800022800022A00022A,
   0x00022C00022C00022E00022E00023000023000023200023200023A00023B00023D00023E,
   0x00024100024100024300024600024800024800024A00024A00024C00024C00024E00024E,
   0x00037000037000037200037200037600037600037F00037F00038600038600038800038A,
   0x00038C00038C00038E00038F0003910003A10003A30003AB0003CF0003CF0003D20003D4,
   0x0003D80003D80003DA0003DA0003DC0003DC0003DE0003DE0003E00003E00003E20003E2,
   0x0003E40003E40003E60003E60003E80003E80003EA0003EA0003EC0003EC0003EE0003EE,
   0x0003F40003F40003F70003F70003F90003FA0003FD00042F000460000460000462000462,
   0x00046400046400046600046600046800046800046A00046A00046C00046C00046E00046E,
   0x00047000047000047200047200047400047400047600047600047800047800047A00047A,
   0x00047C00047C00047E00047E00048000048000048A00048A00048C00048C00048E00048E,
   0x00049000049000049200049200049400049400049600049600049800049800049A00049A,
   0x00049C00049C00049E00049E0004A00004A00004A20004A20004A40004A40004A60004A6,
   0x0004A80004A80004AA0004AA0004AC0004AC0004AE0004AE0004B00004B00004B20004B2,
   0x0004B40004B40004B60004B60004B80004B80004BA0004BA0004BC0004BC0004BE0004BE,
   0x0004C00004C10004C30004C30004C50004C50004C70004C70004C90004C90004CB0004CB,
   0x0004CD0004CD0004D00004D00004D20004D20004D40004D40004D60004D60004D80004D8,
   0x0004DA0004DA0004DC0004DC0004DE0004DE0004E00004E00004E20004E20004E40004E4,
   0x0004E60004E60004E80004E80004EA0004EA0004EC0004EC0004EE0004EE0004F00004F0,
   0x0004F20004F20004F40004F40004F60004F60004F80004F80004FA0004FA0004FC0004FC,
   0x0004FE0004FE000500000500000502000502000504000504000506000506000508000508,
   0x00050A00050A00050C00050C00050E00050E000510000510000512000512000514000514,
   0x00051600051600051800051800051A00051A00051C00051C00051E00051E000520000520,
   0x00052200052200052400052400052600052600052800052800052A00052A00052C00052C,
   0x00052E00052E0005310005560010A00010C50010C70010C70010CD0010CD0013A00013F5,
   0x001C89001C89001C90001CBA001CBD001CBF001E00001E00001E02001E02001E04001E04,
   0x001E06001E06001E08001E08001E0A001E0A001E0C001E0C001E0E001E0E001E10001E10,
   0x001E12001E12001E14001E14001E16001E16001E18001E18001E1A001E1A001E1C001E1C,
   0x001E1E001E1E001E20001E20001E22001E22001E24001E24001E26001E26001E28001E28,
   0x001E2A001E2A001E2C001E2C001E2E001E2E001E30001E30001E32001E32001E34001E34,
   0x001E36001E36001E38001E38001E3A001E3A001E3C001E3C001E3E001E3E001E40001E40,
   0x001E42001E42001E44001E44001E46001E46001E48001E48001E4A001E4A001E4C001E4C,
   0x001E4E001E4E001E50001E50001E52001E52001E54001E54001E56001E56001E58001E58,
   0x001E5A001E5A001E5C001E5C001E5E001E5E001E60001E60001E62001E62001E64001E64,
   0x001E66001E66001E68001E68001E6A001E6A001E6C001E6C001E6E001E6E001E70001E70,
   0x001E72001E72001E74001E74001E76001E76001E78001E78001E7A001E7A001E7C001E7C,
   0x001E7E001E7E001E80001E80001E82001E82001E84001E84001E86001E86001E88001E88,
   0x001E8A001E8A001E8C001E8C001E8E001E8E001E90001E90001E92001E92001E94001E94,
   0x001E9E001E9E001EA0001EA0001EA2001EA2001EA4001EA4001EA6001EA6001EA8001EA8,
   0x001EAA001EAA001EAC001EAC001EAE001EAE001EB0001EB0001EB2001EB2001EB4001EB4,
   0x001EB6001EB6001EB8001EB8001EBA001EBA001EBC001EBC001EBE001EBE001EC0001EC0,
   0x001EC2001EC2001EC4001EC4001EC6001EC6001EC8001EC8001ECA001ECA001ECC001ECC,
   0x001ECE001ECE001ED0001ED0001ED2001ED2001ED4001ED4001ED6001ED6001ED8001ED8,
   0x001EDA001EDA001EDC001EDC001EDE001EDE001EE0001EE0001EE2001EE2001EE4001EE4,
   0x001EE6001EE6001EE8001EE8001EEA001EEA001EEC001EEC001EEE001EEE001EF0001EF0,
   0x001EF2001EF2001EF4001EF4001EF6001EF6001EF8001EF8001EFA001EFA001EFC001EFC,
   0x001EFE001EFE001F08001F0F001F18001F1D001F28001F2F001F38001F3F001F48001F4D,
   0x001F59001F59001F5B001F5B001F5D001F5D001F5F001F5F001F68001F6F001FB8001FBB,
   0x001FC8001FCB001FD8001FDB001FE8001FEC001FF8001FFB002102002102002107002107,
   0x00210B00210D00211000211200211500211500211900211D002124002124002126002126,
   0x00212800212800212A00212D00213000213300213E00213F002145002145002183002183,
   0x002C00002C2F002C60002C60002C62002C64002C67002C67002C69002C69002C6B002C6B,
   0x002C6D002C70002C72002C72002C75002C75002C7E002C80002C82002C82002C84002C84,
   0x002C86002C86002C88002C88002C8A002C8A002C8C002C8C002C8E002C8E002C90002C90,
   0x002C92002C92002C94002C94002C96002C96002C98002C98002C9A002C9A002C9C002C9C,
   0x002C9E002C9E002CA0002CA0002CA2002CA2002CA4002CA4002CA6002CA6002CA8002CA8,
   0x002CAA002CAA002CAC002CAC002CAE002CAE002CB0002CB0002CB2002CB2002CB4002CB4,
   0x002CB6002CB6002CB8002CB8002CBA002CBA002CBC002CBC002CBE002CBE002CC0002CC0,
   0x002CC2002CC2002CC4002CC4002CC6002CC6002CC8002CC8002CCA002CCA002CCC002CCC,
   0x002CCE002CCE002CD0002CD0002CD2002CD2002CD4002CD4002CD6002CD6002CD8002CD8,
   0x002CDA002CDA002CDC002CDC002CDE002CDE002CE0002CE0002CE2002CE2002CEB002CEB,
   0x002CED002CED002CF2002CF200A64000A64000A64200A64200A64400A64400A64600A646,
   0x00A64800A64800A64A00A64A00A64C00A64C00A64E00A64E00A65000A65000A65200A652,
   0x00A65400A65400A65600A65600A65800A65800A65A00A65A00A65C00A65C00A65E00A65E,
   0x00A66000A66000A66200A66200A66400A66400A66600A66600A66800A66800A66A00A66A,
   0x00A66C00A66C00A68000A68000A68200A68200A68400A68400A68600A68600A68800A688,
   0x00A68A00A68A00A68C00A68C00A68E00A68E00A69000A69000A69200A69200A69400A694,
   0x00A69600A69600A69800A69800A69A00A69A00A72200A72200A72400A72400A72600A726,
   0x00A72800A72800A72A00A72A00A72C00A72C00A72E00A72E00A73200A73200A73400A734,
   0x00A73600A73600A73800A73800A73A00A73A00A73C00A73C00A73E00A73E00A74000A740,
   0x00A74200A74200A74400A74400A74600A74600A74800A74800A74A00A74A00A74C00A74C,
   0x00A74E00A74E00A75000A75000A75200A75200A75400A75400A75600A75600A75800A758,
   0x00A75A00A75A00A75C00A75C00A75E00A75E00A76000A76000A76200A76200A76400A764,
   0x00A76600A76600A76800A76800A76A00A76A00A76C00A76C00A76E00A76E00A77900A779,
   0x00A77B00A77B00A77D00A77E00A78000A78000A78200A78200A78400A78400A78600A786,
   0x00A78B00A78B00A78D00A78D00A79000A79000A79200A79200A79600A79600A79800A798,
   0x00A79A00A79A00A79C00A79C00A79E00A79E00A7A000A7A000A7A200A7A200A7A400A7A4,
   0x00A7A600A7A600A7A800A7A800A7AA00A7AE00A7B000A7B400A7B600A7B600A7B800A7B8,
   0x00A7BA00A7BA00A7BC00A7BC00A7BE00A7BE00A7C000A7C000A7C200A7C200A7C400A7C7,
   0x00A7C900A7C900A7CB00A7CC00A7D000A7D000A7D600A7D600A7D800A7D800A7DA00A7DA,
   0x00A7DC00A7DC00A7F500A7F500FF2100FF3A0104000104270104B00104D301057001057A,
   0x01057C01058A01058C010592010594010595010C80010CB2010D50010D650118A00118BF,
   0x016E40016E5F01D40001D41901D43401D44D01D46801D48101D49C01D49C01D49E01D49F,
   0x01D4A201D4A201D4A501D4A601D4A901D4AC01D4AE01D4B501D4D001D4E901D50401D505,
   0x01D50701D50A01D50D01D51401D51601D51C01D53801D53901D53B01D53E01D54001D544,
   0x01D54601D54601D54A01D55001D56C01D58501D5A001D5B901D5D401D5ED01D60801D621,
   0x01D63C01D65501D67001D68901D6A801D6C001D6E201D6FA01D71C01D73401D75601D76E,
   0x01D79001D7A801D7CA01D7CA01E90001E921]

/-- Category `Ll`. -/
def lowercaseLetter : PackedRanges :=
  [0x00006100007A0000B50000B50000DF0000F60000F80000FF000101000101000103000103,
   0x00010500010500010700010700010900010900010B00010B00010D00010D00010F00010F,
   0x00011100011100011300011300011500011500011700011700011900011900011B00011B,
   0x00011D00011D00011F00011F000121000121000123000123000125000125000127000127,
   0x00012900012900012B00012B00012D00012D00012F00012F000131000131000133000133,
   0x00013500013500013700013800013A00013A00013C00013C00013E00013E000140000140,
   0x00014200014200014400014400014600014600014800014900014B00014B00014D00014D,
   0x00014F00014F000151000151000153000153000155000155000157000157000159000159,
   0x00015B00015B00015D00015D00015F00015F000161000161000163000163000165000165,
   0x00016700016700016900016900016B00016B00016D00016D00016F00016F000171000171,
   0x00017300017300017500017500017700017700017A00017A00017C00017C00017E000180,
   0x00018300018300018500018500018800018800018C00018D000192000192000195000195,
   0x00019900019B00019E00019E0001A10001A10001A30001A30001A50001A50001A80001A8,
   0x0001AA0001AB0001AD0001AD0001B00001B00001B40001B40001B60001B60001B90001BA,
   0x0001BD0001BF0001C60001C60001C90001C90001CC0001CC0001CE0001CE0001D00001D0,
   0x0001D20001D20001D40001D40001D60001D60001D80001D80001DA0001DA0001DC0001DD,
   0x0001DF0001DF0001E10001E10001E30001E30001E50001E50001E70001E70001E90001E9,
   0x0001EB0001EB0001ED0001ED0001EF0001F00001F30001F30001F50001F50001F90001F9,
   0x0001FB0001FB0001FD0001FD0001FF0001FF000201000201000203000203000205000205,
   0x00020700020700020900020900020B00020B00020D00020D00020F00020F000211000211,
   0x00021300021300021500021500021700021700021900021900021B00021B00021D00021D,
   0x00021F00021F000221000221000223000223000225000225000227000227000229000229,
   0x00022B00022B00022D00022D00022F00022F00023100023100023300023900023C00023C,
   0x00023F00024000024200024200024700024700024900024900024B00024B00024D00024D,
   0x00024F0002930002950002AF00037100037100037300037300037700037700037B00037D,
   0x0003900003900003AC0003CE0003D00003D10003D50003D70003D90003D90003DB0003DB,
   0x0003DD0003DD0003DF0003DF0003E10003E10003E30003E30003E50003E50003E70003E7,
   0x0003E90003E90003EB0003EB0003ED0003ED0003EF0003F30003F50003F50003F80003F8,
   0x0003FB0003FC00043000045F000461000461000463000463000465000465000467000467,
   0x00046900046900046B00046B00046D00046D00046F00046F000471000471000473000473,
   0x00047500047500047700047700047900047900047B00047B00047D00047D00047F00047F,
   0x00048100048100048B00048B00048D00048D00048F00048F000491000491000493000493,
   0x00049500049500049700049700049900049900049B00049B00049D00049D00049F00049F,
   0x0004A10004A10004A30004A30004A50004A50004A70004A70004A90004A90004AB0004AB,
   0x0004AD0004AD0004AF0004AF0004B10004B10004B30004B30004B50004B50004B70004B7,
   0x0004B90004B90004BB0004BB0004BD0004BD0004BF0004BF0004C20004C20004C40004C4,
   0x0004C60004C60004C80004C80004CA0004CA0004CC0004CC0004CE0004CF0004D10004D1,
   0x0004D30004D30004D50004D50004D70004D70004D90004D90004DB0004DB0004DD0004DD,
   0x0004DF0004DF0004E10004E10004E30004E30004E50004E50004E70004E70004E90004E9,
   0x0004EB0004EB0004ED0004ED0004EF0004EF0004F10004F10004F30004F30004F50004F5,
   0x0004F70004F70004F90004F90004FB0004FB0004FD0004FD0004FF0004FF000501000501,
   0x00050300050300050500050500050700050700050900050900050B00050B00050D00050D,
   0x00050F00050F000511000511000513000513000515000515000517000517000519000519,
   0x00051B00051B00051D00051D00051F00051F000521000521000523000523000525000525,
   0x00052700052700052900052900052B00052B00052D00052D00052F00052F000560000588,
   0x0010D00010FA0010FD0010FF0013F80013FD001C80001C88001C8A001C8A001D00001D2B,
   0x001D6B001D77001D79001D9A001E01001E01001E03001E03001E05001E05001E07001E07,
   0x001E09001E09001E0B001E0B001E0D001E0D001E0F001E0F001E11001E11001E13001E13,
   0x001E15001E15001E17001E17001E19001E19001E1B001E1B001E1D001E1D001E1F001E1F,
   0x001E21001E21001E23001E23001E25001E25001E27001E27001E29001E29001E2B001E2B,
   0x001E2D001E2D001E2F001E2F001E31001E31001E33001E33001E35001E35001E37001E37,
   0x001E39001E39001E3B001E3B001E3D001E3D001E3F001E3F001E41001E41001E43001E43,
   0x001E45001E45001E47001E47001E49001E49001E4B001E4B001E4D001E4D001E4F001E4F,
   0x001E51001E51001E53001E53001E55001E55001E57001E57001E59001E59001E5B001E5B,
   0x001E5D001E5D001E5F001E5F001E61001E61001E63001E63001E65001E65001E67001E67,
   0x001E69001E69001E6B001E6B001E6D001E6D001E6F001E6F001E71001E71001E73001E73,
   0x001E75001E75001E77001E77001E79001E79001E7B001E7B001E7D001E7D001E7F001E7F,
   0x001E81001E81001E83001E83001E85001E85001E87001E87001E89001E89001E8B001E8B,
   0x001E8D001E8D001E8F001E8F001E91001E91001E93001E93001E95001E9D001E9F001E9F,
   0x001EA1001EA1001EA3001EA3001EA5001EA5001EA7001EA7001EA9001EA9001EAB001EAB,
   0x001EAD001EAD001EAF001EAF001EB1001EB1001EB3001EB3001EB5001EB5001EB7001EB7,
   0x001EB9001EB9001EBB001EBB001EBD001EBD001EBF001EBF001EC1001EC1001EC3001EC3,
   0x001EC5001EC5001EC7001EC7001EC9001EC9001ECB001ECB001ECD001ECD001ECF001ECF,
   0x001ED1001ED1001ED3001ED3001ED5001ED5001ED7001ED7001ED9001ED9001EDB001EDB,
   0x001EDD001EDD001EDF001EDF001EE1001EE1001EE3001EE3001EE5001EE5001EE7001EE7,
   0x001EE9001EE9001EEB001EEB001EED001EED001EEF001EEF001EF1001EF1001EF3001EF3,
   0x001EF5001EF5001EF7001EF7001EF9001EF9001EFB001EFB001EFD001EFD001EFF001F07,
   0x001F10001F15001F20001F27001F30001F37001F40001F45001F50001F57001F60001F67,
   0x001F70001F7D001F80001F87001F90001F97001FA0001FA7001FB0001FB4001FB6001FB7,
   0x001FBE001FBE001FC2001FC4001FC6001FC7001FD0001FD3001FD6001FD7001FE0001FE7,
   0x001FF2001FF4001FF6001FF700210A00210A00210E00210F00211300211300212F00212F,
   0x00213400213400213900213900213C00213D00214600214900214E00214E002184002184,
   0x002C30002C5F002C61002C61002C65002C66002C68002C68002C6A002C6A002C6C002C6C,
   0x002C71002C71002C73002C74002C76002C7B002C81002C81002C83002C83002C85002C85,
   0x002C87002C87002C89002C89002C8B002C8B002C8D002C8D002C8F002C8F002C91002C91,
   0x002C93002C93002C95002C95002C97002C97002C99002C99002C9B002C9B002C9D002C9D,
   0x002C9F002C9F002CA1002CA1002CA3002CA3002CA5002CA5002CA7002CA7002CA9002CA9,
   0x002CAB002CAB002CAD002CAD002CAF002CAF002CB1002CB1002CB3002CB3002CB5002CB5,
   0x002CB7002CB7002CB9002CB9002CBB002CBB002CBD002CBD002CBF002CBF002CC1002CC1,
   0x002CC3002CC3002CC5002CC5002CC7002CC7002CC9002CC9002CCB002CCB002CCD002CCD,
   0x002CCF002CCF002CD1002CD1002CD3002CD3002CD5002CD5002CD7002CD7002CD9002CD9,
   0x002CDB002CDB002CDD002CDD002CDF002CDF002CE1002CE1002CE3002CE4002CEC002CEC,
   0x002CEE002CEE002CF3002CF3002D00002D25002D27002D27002D2D002D2D00A64100A641,
   0x00A64300A64300A64500A64500A64700A64700A64900A64900A64B00A64B00A64D00A64D,
   0x00A64F00A64F00A65100A65100A65300A65300A65500A65500A65700A65700A65900A659,
   0x00A65B00A65B00A65D00A65D00A65F00A65F00A66100A66100A66300A66300A66500A665,
   0x00A66700A66700A66900A66900A66B00A66B00A66D00A66D00A68100A68100A68300A683,
   0x00A68500A68500A68700A68700A68900A68900A68B00A68B00A68D00A68D00A68F00A68F,
   0x00A69100A69100A69300A69300A69500A69500A69700A69700A69900A69900A69B00A69B,
   0x00A72300A72300A72500A72500A72700A72700A72900A72900A72B00A72B00A72D00A72D,
   0x00A72F00A73100A73300A73300A73500A73500A73700A73700A73900A73900A73B00A73B,
   0x00A73D00A73D00A73F00A73F00A74100A74100A74300A74300A74500A74500A74700A747,
   0x00A74900A74900A74B00A74B00A74D00A74D00A74F00A74F00A75100A75100A75300A753,
   0x00A75500A75500A75700A75700A75900A75900A75B00A75B00A75D00A75D00A75F00A75F,
   0x00A76100A76100A76300A76300A76500A76500A76700A76700A76900A76900A76B00A76B,
   0x00A76D00A76D00A76F00A76F00A77100A77800A77A00A77A00A77C00A77C00A77F00A77F,
   0x00A78100A78100A78300A78300A78500A78500A78700A78700A78C00A78C00A78E00A78E,
   0x00A79100A79100A79300A79500A79700A79700A79900A79900A79B00A79B00A79D00A79D,
   0x00A79F00A79F00A7A100A7A100A7A300A7A300A7A500A7A500A7A700A7A700A7A900A7A9,
   0x00A7AF00A7AF00A7B500A7B500A7B700A7B700A7B900A7B900A7BB00A7BB00A7BD00A7BD,
   0x00A7BF00A7BF00A7C100A7C100A7C300A7C300A7C800A7C800A7CA00A7CA00A7CD00A7CD,
   0x00A7D100A7D100A7D300A7D300A7D500A7D500A7D700A7D700A7D900A7D900A7DB00A7DB,
   0x00A7F600A7F600A7FA00A7FA00AB3000AB5A00AB6000AB6800AB7000ABBF00FB0000FB06,
   0x00FB1300FB1700FF4100FF5A01042801044F0104D80104FB0105970105A10105A30105B1,
   0x0105B30105B90105BB0105BC010CC0010CF2010D70010D850118C00118DF016E60016E7F,
   0x01D41A01D43301D44E01D45401D45601D46701D48201D49B01D4B601D4B901D4BB01D4BB,
   0x01D4BD01D4C301D4C501D4CF01D4EA01D50301D51E01D53701D55201D56B01D58601D59F,
   0x01D5BA01D5D301D5EE01D60701D62201D63B01D65601D66F01D68A01D6A501D6C201D6DA,
   0x01D6DC01D6E101D6FC01D71401D71601D71B01D73601D74E01D75001D75501D77001D788,
   0x01D78A01D78F01D7AA01D7C201D7C401D7C901D7CB01D7CB01DF0001DF0901DF0B01DF1E,
   0x01DF2501DF2A01E92201E943]

/-- Category `Lt`. -/
def titlecaseLetter : PackedRanges :=
  [0x0001C50001C50001C80001C80001CB0001CB0001F20001F2001F88001F8F001F98001F9F,
   0x001FA8001FAF001FBC001FBC001FCC001FCC001FFC001FFC]

/-- Category `Lm`. -/
def modifierLetter : PackedRanges :=
  [0x0002B00002C10002C60002D10002E00002E40002EC0002EC0002EE0002EE000374000374,
   0x00037A00037A0005590005590006400006400006E50006E60007F40007F50007FA0007FA,
   0x00081A00081A0008240008240008280008280008C90008C9000971000971000E46000E46,
   0x000EC6000EC60010FC0010FC0017D70017D7001843001843001AA7001AA7001C78001C7D,
   0x001D2C001D6A001D78001D78001D9B001DBF00207100207100207F00207F00209000209C,
   0x002C7C002C7D002D6F002D6F002E2F002E2F00300500300500303100303500303B00303B,
   0x00309D00309E0030FC0030FE00A01500A01500A4F800A4FD00A60C00A60C00A67F00A67F,
   0x00A69C00A69D00A71700A71F00A77000A77000A78800A78800A7F200A7F400A7F800A7F9,
   0x00A9CF00A9CF00A9E600A9E600AA7000AA7000AADD00AADD00AAF300AAF400AB5C00AB5F,
   0x00AB6900AB6900FF7000FF7000FF9E00FF9F0107800107850107870107B00107B20107BA,
   0x010D4E010D4E010D6F010D6F016B40016B43016D40016D42016D6B016D6C016F93016F9F,
   0x016FE0016FE1016FE3016FE301AFF001AFF301AFF501AFFB01AFFD01AFFE01E03001E06D,
   0x01E13701E13D01E4EB01E4EB01E94B01E94B]

/-- Category `Lo`. -/
def otherLetter : PackedRanges :=
  [0x0000AA0000AA0000BA0000BA0001BB0001BB0001C00001C30002940002940005D00005EA,
   0x0005EF0005F200062000063F00064100064A00066E00066F0006710006D30006D50006D5,
   0x0006EE0006EF0006FA0006FC0006FF0006FF00071000071000071200072F00074D0007A5,
   0x0007B10007B10007CA0007EA00080000081500084000085800086000086A000870000887,
   0x00088900088E0008A00008C800090400093900093D00093D000950000950000958000961,
   0x00097200098000098500098C00098F0009900009930009A80009AA0009B00009B20009B2,
   0x0009B60009B90009BD0009BD0009CE0009CE0009DC0009DD0009DF0009E10009F00009F1,
   0x0009FC0009FC000A05000A0A000A0F000A10000A13000A28000A2A000A30000A32000A33,
   0x000A35000A36000A38000A39000A59000A5C000A5E000A5E000A72000A74000A85000A8D,
   0x000A8F000A91000A93000AA8000AAA000AB0000AB2000AB3000AB5000AB9000ABD000ABD,
   0x000AD0000AD0000AE0000AE1000AF9000AF9000B05000B0C000B0F000B10000B13000B28,
   0x000B2A000B30000B32000B33000B35000B39000B3D000B3D000B5C000B5D000B5F000B61,
   0x000B71000B71000B83000B83000B85000B8A000B8E000B90000B92000B95000B99000B9A,
   0x000B9C000B9C000B9E000B9F000BA3000BA4000BA8000BAA000BAE000BB9000BD0000BD0,
   0x000C05000C0C000C0E000C10000C12000C28000C2A000C39000C3D000C3D000C58000C5A,
   0x000C5D000C5D000C60000C61000C80000C80000C85000C8C000C8E000C90000C92000CA8,
   0x000CAA000CB3000CB5000CB9000CBD000CBD000CDD000CDE000CE0000CE1000CF1000CF2,
   0x000D04000D0C000D0E000D10000D12000D3A000D3D000D3D000D4E000D4E000D54000D56,
   0x000D5F000D61000D7A000D7F000D85000D96000D9A000DB1000DB3000DBB000DBD000DBD,
   0x000DC0000DC6000E01000E30000E32000E33000E40000E45000E81000E82000E84000E84,
   0x000E86000E8A000E8C000EA3000EA5000EA5000EA7000EB0000EB2000EB3000EBD000EBD,
   0x000EC0000EC4000EDC000EDF000F00000F00000F40000F47000F49000F6C000F88000F8C,
   0x00100000102A00103F00103F00105000105500105A00105D001061001061001065001066,
   0x00106E00107000107500108100108E00108E00110000124800124A00124D001250001256,
   0x00125800125800125A00125D00126000128800128A00128D0012900012B00012B20012B5,
   0x0012B80012BE0012C00012C00012C20012C50012C80012D60012D8001310001312001315,
   0x00131800135A00138000138F00140100166C00166F00167F00168100169A0016A00016EA,
   0x0016F10016F800170000171100171F00173100174000175100176000176C00176E001770,
   0x0017800017B30017DC0017DC0018200018420018440018780018800018840018870018A8,
   0x0018AA0018AA0018B00018F500190000191E00195000196D0019700019740019800019AB,
   0x0019B00019C9001A00001A16001A20001A54001B05001B33001B45001B4C001B83001BA0,
   0x001BAE001BAF001BBA001BE5001C00001C23001C4D001C4F001C5A001C77001CE9001CEC,
   0x001CEE001CF3001CF5001CF6001CFA001CFA002135002138002D30002D67002D80002D96,
   0x002DA0002DA6002DA8002DAE002DB0002DB6002DB8002DBE002DC0002DC6002DC8002DCE,
   0x002DD0002DD6002DD8002DDE00300600300600303C00303C00304100309600309F00309F,
   0x0030A10030FA0030FF0030FF00310500312F00313100318E0031A00031BF0031F00031FF,
   0x003400004DBF004E0000A01400A01600A48C00A4D000A4F700A50000A60B00A61000A61F,
   0x00A62A00A62B00A66E00A66E00A6A000A6E500A78F00A78F00A7F700A7F700A7FB00A801,
   0x00A80300A80500A80700A80A00A80C00A82200A84000A87300A88200A8B300A8F200A8F7,
   0x00A8FB00A8FB00A8FD00A8FE00A90A00A92500A93000A94600A96000A97C00A98400A9B2,
   0x00A9E000A9E400A9E700A9EF00A9FA00A9FE00AA0000AA2800AA4000AA4200AA4400AA4B,
   0x00AA6000AA6F00AA7100AA7600AA7A00AA7A00AA7E00AAAF00AAB100AAB100AAB500AAB6,
   0x00AAB900AABD00AAC000AAC000AAC200AAC200AADB00AADC00AAE000AAEA00AAF200AAF2,
   0x00AB0100AB0600AB0900AB0E00AB1100AB1600AB2000AB2600AB2800AB2E00ABC000ABE2,
   0x00AC0000D7A300D7B000D7C600D7CB00D7FB00F90000FA6D00FA7000FAD900FB1D00FB1D,
   0x00FB1F00FB2800FB2A00FB3600FB3800FB3C00FB3E00FB3E00FB4000FB4100FB4300FB44,
   0x00FB4600FBB100FBD300FD3D00FD5000FD8F00FD9200FDC700FDF000FDFB00FE7000FE74,
   0x00FE7600FEFC00FF6600FF6F00FF7100FF9D00FFA000FFBE00FFC200FFC700FFCA00FFCF,
   0x00FFD200FFD700FFDA00FFDC01000001000B01000D01002601002801003A01003C01003D,
   0x01003F01004D01005001005D0100800100FA01028001029C0102A00102D001030001031F,
   0x01032D01034001034201034901035001037501038001039D0103A00103C30103C80103CF,
   0x01045001049D0105000105270105300105630105C00105F3010600010736010740010755,
   0x01076001076701080001080501080801080801080A01083501083701083801083C01083C,
   0x01083F01085501086001087601088001089E0108E00108F20108F40108F5010900010915,
   0x0109200109390109800109B70109BE0109BF010A00010A00010A10010A13010A15010A17,
   0x010A19010A35010A60010A7C010A80010A9C010AC0010AC7010AC9010AE4010B00010B35,
   0x010B40010B55010B60010B72010B80010B91010C00010C48010D00010D23010D4A010D4D,
   0x010D4F010D4F010E80010EA9010EB0010EB1010EC2010EC4010F00010F1C010F27010F27,
   0x010F30010F45010F70010F81010FB0010FC4010FE0010FF6011003011037011071011072,
   0x0110750110750110830110AF0110D00110E8011103011126011144011144011147011147,
   0x0111500111720111760111760111830111B20111C10111C40111DA0111DA0111DC0111DC,
   0x01120001121101121301122B01123F01124001128001128601128801128801128A01128D,
   0x01128F01129D01129F0112A80112B00112DE01130501130C01130F011310011313011328,
   0x01132A01133001133201133301133501133901133D01133D01135001135001135D011361,
   0x01138001138901138B01138B01138E01138E0113900113B50113B70113B70113D10113D1,
   0x0113D30113D301140001143401144701144A01145F0114610114800114AF0114C40114C5,
   0x0114C70114C70115800115AE0115D80115DB01160001162F0116440116440116800116AA,
   0x0116B80116B801170001171A01174001174601180001182B0118FF011906011909011909,
   0x01190C01191301191501191601191801192F01193F01193F0119410119410119A00119A7,
   0x0119AA0119D00119E10119E10119E30119E3011A00011A00011A0B011A32011A3A011A3A,
   0x011A50011A50011A5C011A89011A9D011A9D011AB0011AF8011BC0011BE0011C00011C08,
   0x011C0A011C2E011C40011C40011C72011C8F011D00011D06011D08011D09011D0B011D30,
   0x011D46011D46011D60011D65011D67011D68011D6A011D89011D98011D98011EE0011EF2,
   0x011F02011F02011F04011F10011F12011F33011FB0011FB0012000012399012480012543,
   0x012F90012FF001300001342F0134410134460134600143FA01440001464601610001611D,
   0x016800016A38016A40016A5E016A70016ABE016AD0016AED016B00016B2F016B63016B77,
   0x016B7D016B8F016D43016D6A016F00016F4A016F50016F500170000187F7018800018CD5,
   0x018CFF018D0801B00001B12201B13201B13201B15001B15201B15501B15501B16401B167,
   0x01B17001B2FB01BC0001BC6A01BC7001BC7C01BC8001BC8801BC9001BC9901DF0A01DF0A,
   0x01E10001E12C01E14E01E14E01E29001E2AD01E2C001E2EB01E4D001E4EA01E5D001E5ED,
   0x01E5F001E5F001E7E001E7E601E7E801E7EB01E7ED01E7EE01E7F001E7FE01E80001E8C4,
   0x01EE0001EE0301EE0501EE1F01EE2101EE2201EE2401EE2401EE2701EE2701EE2901EE32,
   0x01EE3401EE3701EE3901EE3901EE3B01EE3B01EE4201EE4201EE4701EE4701EE4901EE49,
   0x01EE4B01EE4B01EE4D01EE4F01EE5101EE5201EE5401EE5401EE5701EE5701EE5901EE59,
   0x01EE5B01EE5B01EE5D01EE5D01EE5F01EE5F01EE6101EE6201EE6401EE6401EE6701EE6A,
   0x01EE6C01EE7201EE7401EE7701EE7901EE7C01EE7E01EE7E01EE8001EE8901EE8B01EE9B,
   0x01EEA101EEA301EEA501EEA901EEAB01EEBB02000002A6DF02A70002B73902B74002B81D,
   0x02B82002CEA102CEB002EBE002EBF002EE5D02F80002FA1D03000003134A0313500323AF]

/-- Category `Mn`. -/
def nonspacingMark : PackedRanges :=
  [0x00030000036F0004830004870005910005BD0005BF0005BF0005C10005C20005C40005C5,
   0x0005C70005C700061000061A00064B00065F0006700006700006D60006DC0006DF0006E4,
   0x0006E70006E80006EA0006ED00071100071100073000074A0007A60007B00007EB0007F3,
   0x0007FD0007FD00081600081900081B00082300082500082700082900082D00085900085B,
   0x00089700089F0008CA0008E10008E300090200093A00093A00093C00093C000941000948,
   0x00094D00094D0009510009570009620009630009810009810009BC0009BC0009C10009C4,
   0x0009CD0009CD0009E20009E30009FE0009FE000A01000A02000A3C000A3C000A41000A42,
   0x000A47000A48000A4B000A4D000A51000A51000A70000A71000A75000A75000A81000A82,
   0x000ABC000ABC000AC1000AC5000AC7000AC8000ACD000ACD000AE2000AE3000AFA000AFF,
   0x000B01000B01000B3C000B3C000B3F000B3F000B41000B44000B4D000B4D000B55000B56,
   0x000B62000B63000B82000B82000BC0000BC0000BCD000BCD000C00000C00000C04000C04,
   0x000C3C000C3C000C3E000C40000C46000C48000C4A000C4D000C55000C56000C62000C63,
   0x000C81000C81000CBC000CBC000CBF000CBF000CC6000CC6000CCC000CCD000CE2000CE3,
   0x000D00000D01000D3B000D3C000D41000D44000D4D000D4D000D62000D63000D81000D81,
   0x000DCA000DCA000DD2000DD4000DD6000DD6000E31000E31000E34000E3A000E47000E4E,
   0x000EB1000EB1000EB4000EBC000EC8000ECE000F18000F19000F35000F35000F37000F37,
   0x000F39000F39000F71000F7E000F80000F84000F86000F87000F8D000F97000F99000FBC,
   0x000FC6000FC600102D00103000103200103700103900103A00103D00103E001058001059,
   0x00105E00106000107100107400108200108200108500108600108D00108D00109D00109D,
   0x00135D00135F0017120017140017320017330017520017530017720017730017B40017B5,
   0x0017B70017BD0017C60017C60017C90017D30017DD0017DD00180B00180D00180F00180F,
   0x0018850018860018A90018A900192000192200192700192800193200193200193900193B,
   0x001A17001A18001A1B001A1B001A56001A56001A58001A5E001A60001A60001A62001A62,
   0x001A65001A6C001A73001A7C001A7F001A7F001AB0001ABD001ABF001ACE001B00001B03,
   0x001B34001B34001B36001B3A001B3C001B3C001B42001B42001B6B001B73001B80001B81,
   0x001BA2001BA5001BA8001BA9001BAB001BAD001BE6001BE6001BE8001BE9001BED001BED,
   0x001BEF001BF1001C2C001C33001C36001C37001CD0001CD2001CD4001CE0001CE2001CE8,
   0x001CED001CED001CF4001CF4001CF8001CF9001DC0001DFF0020D00020DC0020E10020E1,
   0x0020E50020F0002CEF002CF1002D7F002D7F002DE0002DFF00302A00302D00309900309A,
   0x00A66F00A66F00A67400A67D00A69E00A69F00A6F000A6F100A80200A80200A80600A806,
   0x00A80B00A80B00A82500A82600A82C00A82C00A8C400A8C500A8E000A8F100A8FF00A8FF,
   0x00A92600A92D00A94700A95100A98000A98200A9B300A9B300A9B600A9B900A9BC00A9BD,
   0x00A9E500A9E500AA2900AA2E00AA3100AA3200AA3500AA3600AA4300AA4300AA4C00AA4C,
   0x00AA7C00AA7C00AAB000AAB000AAB200AAB400AAB700AAB800AABE00AABF00AAC100AAC1,
   0x00AAEC00AAED00AAF600AAF600ABE500ABE500ABE800ABE800ABED00ABED00FB1E00FB1E,
   0x00FE0000FE0F00FE2000FE2F0101FD0101FD0102E00102E001037601037A010A01010A03,
   0x010A05010A06010A0C010A0F010A38010A3A010A3F010A3F010AE5010AE6010D24010D27,
   0x010D69010D6D010EAB010EAC010EFC010EFF010F46010F50010F82010F85011001011001,
   0x01103801104601107001107001107301107401107F0110810110B30110B60110B90110BA,
   0x0110C20110C201110001110201112701112B01112D011134011173011173011180011181,
   0x0111B60111BE0111C90111CC0111CF0111CF01122F011231011234011234011236011237,
   0x01123E01123E0112410112410112DF0112DF0112E30112EA01130001130101133B01133C,
   0x01134001134001136601136C0113700113740113BB0113C00113CE0113CE0113D00113D0,
   0x0113D20113D20113E10113E201143801143F01144201144401144601144601145E01145E,
   0x0114B30114B80114BA0114BA0114BF0114C00114C20114C30115B20115B50115BC0115BD,
   0x0115BF0115C00115DC0115DD01163301163A01163D01163D01163F0116400116AB0116AB,
   0x0116AD0116AD0116B00116B50116B70116B701171D01171D01171F01171F011722011725,
   0x01172701172B01182F01183701183901183A01193B01193C01193E01193E011943011943,
   0x0119D40119D70119DA0119DB0119E00119E0011A01011A0A011A33011A38011A3B011A3E,
   0x011A47011A47011A51011A56011A59011A5B011A8A011A96011A98011A99011C30011C36,
   0x011C38011C3D011C3F011C3F011C92011CA7011CAA011CB0011CB2011CB3011CB5011CB6,
   0x011D31011D36011D3A011D3A011D3C011D3D011D3F011D45011D47011D47011D90011D91,
   0x011D95011D95011D97011D97011EF3011EF4011F00011F01011F36011F3A011F40011F40,
   0x011F42011F42011F5A011F5A01344001344001344701345501611E01612901612D01612F,
   0x016AF0016AF4016B30016B36016F4F016F4F016F8F016F92016FE4016FE401BC9D01BC9E,
   0x01CF0001CF2D01CF3001CF4601D16701D16901D17B01D18201D18501D18B01D1AA01D1AD,
   0x01D24201D24401DA0001DA3601DA3B01DA6C01DA7501DA7501DA8401DA8401DA9B01DA9F,
   0x01DAA101DAAF01E00001E00601E00801E01801E01B01E02101E02301E02401E02601E02A,
   0x01E08F01E08F01E13001E13601E2AE01E2AE01E2EC01E2EF01E4EC01E4EF01E5EE01E5EF,
   0x01E8D001E8D601E94401E94A0E01000E01EF]

/-- Category `Mc`. -/
def spacingMark : PackedRanges :=
  [0x00090300090300093B00093B00093E00094000094900094C00094E00094F000982000983,
   0x0009BE0009C00009C70009C80009CB0009CC0009D70009D7000A03000A03000A3E000A40,
   0x000A83000A83000ABE000AC0000AC9000AC9000ACB000ACC000B02000B03000B3E000B3E,
   0x000B40000B40000B47000B48000B4B000B4C000B57000B57000BBE000BBF000BC1000BC2,
   0x000BC6000BC8000BCA000BCC000BD7000BD7000C01000C03000C41000C44000C82000C83,
   0x000CBE000CBE000CC0000CC4000CC7000CC8000CCA000CCB000CD5000CD6000CF3000CF3,
   0x000D02000D03000D3E000D40000D46000D48000D4A000D4C000D57000D57000D82000D83,
   0x000DCF000DD1000DD8000DDF000DF2000DF3000F3E000F3F000F7F000F7F00102B00102C,
   0x00103100103100103800103800103B00103C00105600105700106200106400106700106D,
   0x00108300108400108700108C00108F00108F00109A00109C001715001715001734001734,
   0x0017B60017B60017BE0017C50017C70017C800192300192600192900192B001930001931,
   0x001933001938001A19001A1A001A55001A55001A57001A57001A61001A61001A63001A64,
   0x001A6D001A72001B04001B04001B35001B35001B3B001B3B001B3D001B41001B43001B44,
   0x001B82001B82001BA1001BA1001BA6001BA7001BAA001BAA001BE7001BE7001BEA001BEC,
   0x001BEE001BEE001BF2001BF3001C24001C2B001C34001C35001CE1001CE1001CF7001CF7,
   0x00302E00302F00A82300A82400A82700A82700A88000A88100A8B400A8C300A95200A953,
   0x00A98300A98300A9B400A9B500A9BA00A9BB00A9BE00A9C000AA2F00AA3000AA3300AA34,
   0x00AA4D00AA4D00AA7B00AA7B00AA7D00AA7D00AAEB00AAEB00AAEE00AAEF00AAF500AAF5,
   0x00ABE300ABE400ABE600ABE700ABE900ABEA00ABEC00ABEC011000011000011002011002,
   0x0110820110820110B00110B20110B70110B801112C01112C011145011146011182011182,
   0x0111B30111B50111BF0111C00111CE0111CE01122C01122E011232011233011235011235,
   0x0112E00112E201130201130301133E01133F01134101134401134701134801134B01134D,
   0x0113570113570113620113630113B80113BA0113C20113C20113C50113C50113C70113CA,
   0x0113CC0113CD0113CF0113CF0114350114370114400114410114450114450114B00114B2,
   0x0114B90114B90114BB0114BE0114C10114C10115AF0115B10115B80115BB0115BE0115BE,
   0x01163001163201163B01163C01163E01163E0116AC0116AC0116AE0116AF0116B60116B6,
   0x01171E01171E01172001172101172601172601182C01182E011838011838011930011935,
   0x01193701193801193D01193D0119400119400119420119420119D10119D30119DC0119DF,
   0x0119E40119E4011A39011A39011A57011A58011A97011A97011C2F011C2F011C3E011C3E,
   0x011CA9011CA9011CB1011CB1011CB4011CB4011D8A011D8E011D93011D94011D96011D96,
   0x011EF5011EF6011F03011F03011F34011F35011F3E011F3F011F41011F4101612A01612C,
   0x016F51016F87016FF0016FF101D16501D16601D16D01D172]

/-- Category `Me`. -/
def enclosingMark : PackedRanges :=
  [0x000488000489001ABE001ABE0020DD0020E00020E20020E400A67000A672]

/-- Category `Nd`. -/
def decimalNumber : PackedRanges :=
  [0x0000300000390006600006690006F00006F90007C00007C900096600096F0009E60009EF,
   0x000A66000A6F000AE6000AEF000B66000B6F000BE6000BEF000C66000C6F000CE6000CEF,
   0x000D66000D6F000DE6000DEF000E50000E59000ED0000ED9000F20000F29001040001049,
   0x0010900010990017E00017E900181000181900194600194F0019D00019D9001A80001A89,
   0x001A90001A99001B50001B59001BB0001BB9001C40001C49001C50001C5900A62000A629,
   0x00A8D000A8D900A90000A90900A9D000A9D900A9F000A9F900AA5000AA5900ABF000ABF9,
   0x00FF1000FF190104A00104A9010D30010D39010D40010D4901106601106F0110F00110F9,
   0x01113601113F0111D00111D90112F00112F90114500114590114D00114D9011650011659,
   0x0116C00116C90116D00116E30117300117390118E00118E9011950011959011BF0011BF9,
   0x011C50011C59011D50011D59011DA0011DA9011F50011F59016130016139016A60016A69,
   0x016AC0016AC9016B50016B59016D70016D7901CCF001CCF901D7CE01D7FF01E14001E149,
   0x01E2F001E2F901E4F001E4F901E5F101E5FA01E95001E95901FBF001FBF9]

/-- Category `Nl`. -/
def letterNumber : PackedRanges :=
  [0x0016EE0016F000216000218200218500218800300700300700302100302900303800303A,
   0x00A6E600A6EF01014001017401034101034101034A01034A0103D10103D501240001246E]

/-- Category `No`. -/
def otherNumber : PackedRanges :=
  [0x0000B20000B30000B90000B90000BC0000BE0009F40009F9000B72000B77000BF0000BF2,
   0x000C78000C7E000D58000D5E000D70000D78000F2A000F3300136900137C0017F00017F9,
   0x0019DA0019DA00207000207000207400207900208000208900215000215F002189002189,
   0x00246000249B0024EA0024FF002776002793002CFD002CFD003192003195003220003229,
   0x00324800324F00325100325F0032800032890032B10032BF00A83000A835010107010133,
   0x01017501017801018A01018B0102E10102FB01032001032301085801085F01087901087F,
   0x0108A70108AF0108FB0108FF01091601091B0109BC0109BD0109C00109CF0109D20109FF,
   0x010A40010A48010A7D010A7E010A9D010A9F010AEB010AEF010B58010B5F010B78010B7F,
   0x010BA9010BAF010CFA010CFF010E60010E7E010F1D010F26010F51010F54010FC5010FCB,
   0x0110520110650111E10111F401173A01173B0118EA0118F2011C5A011C6C011FC0011FD4,
   0x016B5B016B61016E80016E9601D2C001D2D301D2E001D2F301D36001D37801E8C701E8CF,
   0x01EC7101ECAB01ECAD01ECAF01ECB101ECB401ED0101ED2D01ED2F01ED3D01F10001F10C]

/-- Category `Pc`. -/
def connectorPunctuation : PackedRanges :=
  [0x00005F00005F00203F00204000205400205400FE3300FE3400FE4D00FE4F00FF3F00FF3F]

/-- Category `Pd`. -/
def dashPunctuation : PackedRanges :=
  [0x00002D00002D00058A00058A0005BE0005BE001400001400001806001806002010002015,
   0x002E17002E17002E1A002E1A002E3A002E3B002E40002E40002E5D002E5D00301C00301C,
   0x0030300030300030A00030A000FE3100FE3200FE5800FE5800FE6300FE6300FF0D00FF0D,
   0x010D6E010D6E010EAD010EAD]

/-- Category `Ps`. -/
def openPunctuation : PackedRanges :=
  [0x00002800002800005B00005B00007B00007B000F3A000F3A000F3C000F3C00169B00169B,
   0x00201A00201A00201E00201E00204500204500207D00207D00208D00208D002308002308,
   0x00230A00230A00232900232900276800276800276A00276A00276C00276C00276E00276E,
   0x0027700027700027720027720027740027740027C50027C50027E60027E60027E80027E8,
   0x0027EA0027EA0027EC0027EC0027EE0027EE002983002983002985002985002987002987,
   0x00298900298900298B00298B00298D00298D00298F00298F002991002991002993002993,
   0x0029950029950029970029970029D80029D80029DA0029DA0029FC0029FC002E22002E22,
   0x002E24002E24002E26002E26002E28002E28002E42002E42002E55002E55002E57002E57,
   0x002E59002E59002E5B002E5B00300800300800300A00300A00300C00300C00300E00300E,
   0x00301000301000301400301400301600301600301800301800301A00301A00301D00301D,
   0x00FD3F00FD3F00FE1700FE1700FE3500FE3500FE3700FE3700FE3900FE3900FE3B00FE3B,
   0x00FE3D00FE3D00FE3F00FE3F00FE4100FE4100FE4300FE4300FE4700FE4700FE5900FE59,
   0x00FE5B00FE5B00FE5D00FE5D00FF0800FF0800FF3B00FF3B00FF5B00FF5B00FF5F00FF5F,
   0x00FF6200FF62]

/-- Category `Pe`. -/
def closePunctuation : PackedRanges :=
  [0x00002900002900005D00005D00007D00007D000F3B000F3B000F3D000F3D00169C00169C,
   0x00204600204600207E00207E00208E00208E00230900230900230B00230B00232A00232A,
   0x00276900276900276B00276B00276D00276D00276F00276F002771002771002773002773,
   0x0027750027750027C60027C60027E70027E70027E90027E90027EB0027EB0027ED0027ED,
   0x0027EF0027EF00298400298400298600298600298800298800298A00298A00298C00298C,
   0x00298E00298E002990002990002992002992002994002994002996002996002998002998,
   0x0029D90029D90029DB0029DB0029FD0029FD002E23002E23002E25002E25002E27002E27,
   0x002E29002E29002E56002E56002E58002E58002E5A002E5A002E5C002E5C003009003009,
   0x00300B00300B00300D00300D00300F00300F003011003011003015003015003017003017,
   0x00301900301900301B00301B00301E00301F00FD3E00FD3E00FE1800FE1800FE3600FE36,
   0x00FE3800FE3800FE3A00FE3A00FE3C00FE3C00FE3E00FE3E00FE4000FE4000FE4200FE42,
   0x00FE4400FE4400FE4800FE4800FE5A00FE5A00FE5C00FE5C00FE5E00FE5E00FF0900FF09,
   0x00FF3D00FF3D00FF5D00FF5D00FF6000FF6000FF6300FF63]

/-- Category `Pi`. -/
def initialPunctuation : PackedRanges :=
  [0x0000AB0000AB00201800201800201B00201C00201F00201F002039002039002E02002E02,
   0x002E04002E04002E09002E09002E0C002E0C002E1C002E1C002E20002E20]

/-- Category `Pf`. -/
def finalPunctuation : PackedRanges :=
  [0x0000BB0000BB00201900201900201D00201D00203A00203A002E03002E03002E05002E05,
   0x002E0A002E0A002E0D002E0D002E1D002E1D002E21002E21]

/-- Category `Po`. -/
def otherPunctuation : PackedRanges :=
  [0x00002100002300002500002700002A00002A00002C00002C00002E00002F00003A00003B,
   0x00003F00004000005C00005C0000A10000A10000A70000A70000B60000B70000BF0000BF,
   0x00037E00037E00038700038700055A00055F0005890005890005C00005C00005C30005C3,
   0x0005C60005C60005F30005F400060900060A00060C00060D00061B00061B00061D00061F,
   0x00066A00066D0006D40006D400070000070D0007F70007F900083000083E00085E00085E,
   0x0009640009650009700009700009FD0009FD000A76000A76000AF0000AF0000C77000C77,
   0x000C84000C84000DF4000DF4000E4F000E4F000E5A000E5B000F04000F12000F14000F14,
   0x000F85000F85000FD0000FD4000FD9000FDA00104A00104F0010FB0010FB001360001368,
   0x00166E00166E0016EB0016ED0017350017360017D40017D60017D80017DA001800001805,
   0x00180700180A001944001945001A1E001A1F001AA0001AA6001AA8001AAD001B4E001B4F,
   0x001B5A001B60001B7D001B7F001BFC001BFF001C3B001C3F001C7E001C7F001CC0001CC7,
   0x001CD3001CD300201600201700202000202700203000203800203B00203E002041002043,
   0x00204700205100205300205300205500205E002CF9002CFC002CFE002CFF002D70002D70,
   0x002E00002E01002E06002E08002E0B002E0B002E0E002E16002E18002E19002E1B002E1B,
   0x002E1E002E1F002E2A002E2E002E30002E39002E3C002E3F002E41002E41002E43002E4F,
   0x002E52002E5400300100300300303D00303D0030FB0030FB00A4FE00A4FF00A60D00A60F,
   0x00A67300A67300A67E00A67E00A6F200A6F700A87400A87700A8CE00A8CF00A8F800A8FA,
   0x00A8FC00A8FC00A92E00A92F00A95F00A95F00A9C100A9CD00A9DE00A9DF00AA5C00AA5F,
   0x00AADE00AADF00AAF000AAF100ABEB00ABEB00FE1000FE1600FE1900FE1900FE3000FE30,
   0x00FE4500FE4600FE4900FE4C00FE5000FE5200FE5400FE5700FE5F00FE6100FE6800FE68,
   0x00FE6A00FE6B00FF0100FF0300FF0500FF0700FF0A00FF0A00FF0C00FF0C00FF0E00FF0F,
   0x00FF1A00FF1B00FF1F00FF2000FF3C00FF3C00FF6100FF6100FF6400FF65010100010102,
   0x01039F01039F0103D00103D001056F01056F01085701085701091F01091F01093F01093F,
   0x010A50010A58010A7F010A7F010AF0010AF6010B39010B3F010B99010B9C010F55010F59,
   0x010F86010F8901104701104D0110BB0110BC0110BE0110C1011140011143011174011175,
   0x0111C50111C80111CD0111CD0111DB0111DB0111DD0111DF01123801123D0112A90112A9,
   0x0113D40113D50113D70113D801144B01144F01145A01145B01145D01145D0114C60114C6,
   0x0115C10115D701164101164301166001166C0116B90116B901173C01173E01183B01183B,
   0x0119440119460119E20119E2011A3F011A46011A9A011A9C011A9E011AA2011B00011B09,
   0x011BE1011BE1011C41011C45011C70011C71011EF7011EF8011F43011F4F011FFF011FFF,
   0x012470012474012FF1012FF2016A6E016A6F016AF5016AF5016B37016B3B016B44016B44,
   0x016D6D016D6F016E97016E9A016FE2016FE201BC9F01BC9F01DA8701DA8B01E5FF01E5FF,
   0x01E95E01E95F]

/-- Category `Sm`. -/
def mathSymbol : PackedRanges :=
  [0x00002B00002B00003C00003E00007C00007C00007E00007E0000AC0000AC0000B10000B1,
   0x0000D70000D70000F70000F70003F60003F6000606000608002044002044002052002052,
   0x00207A00207C00208A00208C00211800211800214000214400214B00214B002190002194,
   0x00219A00219B0021A00021A00021A30021A30021A60021A60021AE0021AE0021CE0021CF,
   0x0021D20021D20021D40021D40021F40022FF00232000232100237C00237C00239B0023B3,
   0x0023DC0023E10025B70025B70025C10025C10025F80025FF00266F00266F0027C00027C4,
   0x0027C70027E50027F00027FF0029000029820029990029D70029DC0029FB0029FE002AFF,
   0x002B30002B44002B47002B4C00FB2900FB2900FE6200FE6200FE6400FE6600FF0B00FF0B,
   0x00FF1C00FF1E00FF5C00FF5C00FF5E00FF5E00FFE200FFE200FFE900FFEC010D8E010D8F,
   0x01D6C101D6C101D6DB01D6DB01D6FB01D6FB01D71501D71501D73501D73501D74F01D74F,
   0x01D76F01D76F01D78901D78901D7A901D7A901D7C301D7C301EEF001EEF1]

/-- Category `Sc`. -/
def currencySymbol : PackedRanges :=
  [0x0000240000240000A20000A500058F00058F00060B00060B0007FE0007FF0009F20009F3,
   0x0009FB0009FB000AF1000AF1000BF9000BF9000E3F000E3F0017DB0017DB0020A00020C0,
   0x00A83800A83800FDFC00FDFC00FE6900FE6900FF0400FF0400FFE000FFE100FFE500FFE6,
   0x011FDD011FE001E2FF01E2FF01ECB001ECB0]

/-- Category `Sk`. -/
def modifierSymbol : PackedRanges :=
  [0x00005E00005E0000600000600000A80000A80000AF0000AF0000B40000B40000B80000B8,
   0x0002C20002C50002D20002DF0002E50002EB0002ED0002ED0002EF0002FF000375000375,
   0x000384000385000888000888001FBD001FBD001FBF001FC1001FCD001FCF001FDD001FDF,
   0x001FED001FEF001FFD001FFE00309B00309C00A70000A71600A72000A72100A78900A78A,
   0x00AB5B00AB5B00AB6A00AB6B00FBB200FBC200FF3E00FF3E00FF4000FF4000FFE300FFE3,
   0x01F3FB01F3FF]

/-- Category `So`. -/
def otherSymbol : PackedRanges :=
  [0x0000A60000A60000A90000A90000AE0000AE0000B00000B000048200048200058D00058E,
   0x00060E00060F0006DE0006DE0006E90006E90006FD0006FE0007F60007F60009FA0009FA,
   0x000B70000B70000BF3000BF8000BFA000BFA000C7F000C7F000D4F000D4F000D79000D79,
   0x000F01000F03000F13000F13000F15000F17000F1A000F1F000F34000F34000F36000F36,
   0x000F38000F38000FBE000FC5000FC7000FCC000FCE000FCF000FD5000FD800109E00109F,
   0x00139000139900166D00166D0019400019400019DE0019FF001B61001B6A001B74001B7C,
   0x00210000210100210300210600210800210900211400211400211600211700211E002123,
   0x00212500212500212700212700212900212900212E00212E00213A00213B00214A00214A,
   0x00214C00214D00214F00214F00218A00218B00219500219900219C00219F0021A10021A2,
   0x0021A40021A50021A70021AD0021AF0021CD0021D00021D10021D30021D30021D50021F3,
   0x00230000230700230C00231F00232200232800232B00237B00237D00239A0023B40023DB,
   0x0023E200242900244000244A00249C0024E90025000025B60025B80025C00025C20025F7,
   0x00260000266E0026700027670027940027BF0028000028FF002B00002B2F002B45002B46,
   0x002B4D002B73002B76002B95002B97002BFF002CE5002CEA002E50002E51002E80002E99,
   0x002E9B002EF3002F00002FD5002FF0002FFF003004003004003012003013003020003020,
   0x00303600303700303E00303F00319000319100319600319F0031C00031E50031EF0031EF,
   0x00320000321E00322A00324700325000325000326000327F00328A0032B00032C00033FF,
   0x004DC0004DFF00A49000A4C600A82800A82B00A83600A83700A83900A83900AA7700AA79,
   0x00FD4000FD4F00FDCF00FDCF00FDFD00FDFF00FFE400FFE400FFE800FFE800FFED00FFEE,
   0x00FFFC00FFFD01013701013F01017901018901018C01018E01019001019C0101A00101A0,
   0x0101D00101FC010877010878010AC8010AC801173F01173F011FD5011FDC011FE1011FF1,
   0x016B3C016B3F016B45016B4501BC9C01BC9C01CC0001CCEF01CD0001CEB301CF5001CFC3,
   0x01D00001D0F501D10001D12601D12901D16401D16A01D16C01D18301D18401D18C01D1A9,
   0x01D1AE01D1EA01D20001D24101D24501D24501D30001D35601D80001D9FF01DA3701DA3A,
   0x01DA6D01DA7401DA7601DA8301DA8501DA8601E14F01E14F01ECAC01ECAC01ED2E01ED2E,
   0x01F00001F02B01F03001F09301F0A001F0AE01F0B101F0BF01F0C101F0CF01F0D101F0F5,
   0x01F10D01F1AD01F1E601F20201F21001F23B01F24001F24801F25001F25101F26001F265,
   0x01F30001F3FA01F40001F6D701F6DC01F6EC01F6F001F6FC01F70001F77601F77B01F7D9,
   0x01F7E001F7EB01F7F001F7F001F80001F80B01F81001F84701F85001F85901F86001F887,
   0x01F89001F8AD01F8B001F8BB01F8C001F8C101F90001FA5301FA6001FA6D01FA7001FA7C,
   0x01FA8001FA8901FA8F01FAC601FACE01FADC01FADF01FAE901FAF001FAF801FB0001FB92,
   0x01FB9401FBEF]

/-- Category `Zs`. -/
def spaceSeparator : PackedRanges :=
  [0x0000200000200000A00000A000168000168000200000200A00202F00202F00205F00205F,
   0x003000003000]

/-- Category `Zl`. -/
def lineSeparator : PackedRanges :=
  [0x002028002028]

/-- Category `Zp`. -/
def paragraphSeparator : PackedRanges :=
  [0x002029002029]

/-- Category `Cc`. -/
def control : PackedRanges :=
  [0x00000000001F00007F00009F]

/-- Category `Cf`. -/
def format : PackedRanges :=
  [0x0000AD0000AD00060000060500061C00061C0006DD0006DD00070F00070F000890000891,
   0x0008E20008E200180E00180E00200B00200F00202A00202E00206000206400206600206F,
   0x00FEFF00FEFF00FFF900FFFB0110BD0110BD0110CD0110CD01343001343F01BCA001BCA3,
   0x01D17301D17A0E00010E00010E00200E007F]

/-- Category `Co`. -/
def privateUse : PackedRanges :=
  [0x00E00000F8FF0F00000FFFFD10000010FFFD]

/-- Category `Cn`. -/
def unassigned : PackedRanges :=
  [0x00037800037900038000038300038B00038B00038D00038D0003A20003A2000530000530,
   0x00055700055800058B00058C0005900005900005C80005CF0005EB0005EE0005F50005FF,
   0x00070E00070E00074B00074C0007B20007BF0007FB0007FC00082E00082F00083F00083F,
   0x00085C00085D00085F00085F00086B00086F00088F00088F000892000896000984000984,
   0x00098D00098E0009910009920009A90009A90009B10009B10009B30009B50009BA0009BB,
   0x0009C50009C60009C90009CA0009CF0009D60009D80009DB0009DE0009DE0009E40009E5,
   0x0009FF000A00000A04000A04000A0B000A0E000A11000A12000A29000A29000A31000A31,
   0x000A34000A34000A37000A37000A3A000A3B000A3D000A3D000A43000A46000A49000A4A,
   0x000A4E000A50000A52000A58000A5D000A5D000A5F000A65000A77000A80000A84000A84,
   0x000A8E000A8E000A92000A92000AA9000AA9000AB1000AB1000AB4000AB4000ABA000ABB,
   0x000AC6000AC6000ACA000ACA000ACE000ACF000AD1000ADF000AE4000AE5000AF2000AF8,
   0x000B00000B00000B04000B04000B0D000B0E000B11000B12000B29000B29000B31000B31,
   0x000B34000B34000B3A000B3B000B45000B46000B49000B4A000B4E000B54000B58000B5B,
   0x000B5E000B5E000B64000B65000B78000B81000B84000B84000B8B000B8D000B91000B91,
   0x000B96000B98000B9B000B9B000B9D000B9D000BA0000BA2000BA5000BA7000BAB000BAD,
   0x000BBA000BBD000BC3000BC5000BC9000BC9000BCE000BCF000BD1000BD6000BD8000BE5,
   0x000BFB000BFF000C0D000C0D000C11000C11000C29000C29000C3A000C3B000C45000C45,
   0x000C49000C49000C4E000C54000C57000C57000C5B000C5C000C5E000C5F000C64000C65,
   0x000C70000C76000C8D000C8D000C91000C91000CA9000CA9000CB4000CB4000CBA000CBB,
   0x000CC5000CC5000CC9000CC9000CCE000CD4000CD7000CDC000CDF000CDF000CE4000CE5,
   0x000CF0000CF0000CF4000CFF000D0D000D0D000D11000D11000D45000D45000D49000D49,
   0x000D50000D53000D64000D65000D80000D80000D84000D84000D97000D99000DB2000DB2,
   0x000DBC000DBC000DBE000DBF000DC7000DC9000DCB000DCE000DD5000DD5000DD7000DD7,
   0x000DE0000DE5000DF0000DF1000DF5000E00000E3B000E3E000E5C000E80000E83000E83,
   0x000E85000E85000E8B000E8B000EA4000EA4000EA6000EA6000EBE000EBF000EC5000EC5,
   0x000EC7000EC7000ECF000ECF000EDA000EDB000EE0000EFF000F48000F48000F6D000F70,
   0x000F98000F98000FBD000FBD000FCD000FCD000FDB000FFF0010C60010C60010C80010CC,
   0x0010CE0010CF00124900124900124E00124F00125700125700125900125900125E00125F,
   0x00128900128900128E00128F0012B10012B10012B60012B70012BF0012BF0012C10012C1,
   0x0012C60012C70012D70012D700131100131100131600131700135B00135C00137D00137F,
   0x00139A00139F0013F60013F70013FE0013FF00169D00169F0016F90016FF00171600171E,
   0x00173700173F00175400175F00176D00176D00177100177100177400177F0017DE0017DF,
   0x0017EA0017EF0017FA0017FF00181A00181F00187900187F0018AB0018AF0018F60018FF,
   0x00191F00191F00192C00192F00193C00193F00194100194300196E00196F00197500197F,
   0x0019AC0019AF0019CA0019CF0019DB0019DD001A1C001A1D001A5F001A5F001A7D001A7E,
   0x001A8A001A8F001A9A001A9F001AAE001AAF001ACF001AFF001B4D001B4D001BF4001BFB,
   0x001C38001C3A001C4A001C4C001C8B001C8F001CBB001CBC001CC8001CCF001CFB001CFF,
   0x001F16001F17001F1E001F1F001F46001F47001F4E001F4F001F58001F58001F5A001F5A,
   0x001F5C001F5C001F5E001F5E001F7E001F7F001FB5001FB5001FC5001FC5001FD4001FD5,
   0x001FDC001FDC001FF0001FF1001FF5001FF5001FFF001FFF002065002065002072002073,
   0x00208F00208F00209D00209F0020C10020CF0020F10020FF00218C00218F00242A00243F,
   0x00244B00245F002B74002B75002B96002B96002CF4002CF8002D26002D26002D28002D2C,
   0x002D2E002D2F002D68002D6E002D71002D7E002D97002D9F002DA7002DA7002DAF002DAF,
   0x002DB7002DB7002DBF002DBF002DC7002DC7002DCF002DCF002DD7002DD7002DDF002DDF,
   0x002E5E002E7F002E9A002E9A002EF4002EFF002FD6002FEF003040003040003097003098,
   0x00310000310400313000313000318F00318F0031E60031EE00321F00321F00A48D00A48F,
   0x00A4C700A4CF00A62C00A63F00A6F800A6FF00A7CE00A7CF00A7D200A7D200A7D400A7D4,
   0x00A7DD00A7F100A82D00A82F00A83A00A83F00A87800A87F00A8C600A8CD00A8DA00A8DF,
   0x00A95400A95E00A97D00A97F00A9CE00A9CE00A9DA00A9DD00A9FF00A9FF00AA3700AA3F,
   0x00AA4E00AA4F00AA5A00AA5B00AAC300AADA00AAF700AB0000AB0700AB0800AB0F00AB10,
   0x00AB1700AB1F00AB2700AB2700AB2F00AB2F00AB6C00AB6F00ABEE00ABEF00ABFA00ABFF,
   0x00D7A400D7AF00D7C700D7CA00D7FC00D7FF00FA6E00FA6F00FADA00FAFF00FB0700FB12,
   0x00FB1800FB1C00FB3700FB3700FB3D00FB3D00FB3F00FB3F00FB4200FB4200FB4500FB45,
   0x00FBC300FBD200FD9000FD9100FDC800FDCE00FDD000FDEF00FE1A00FE1F00FE5300FE53,
   0x00FE6700FE6700FE6C00FE6F00FE7500FE7500FEFD00FEFE00FF0000FF0000FFBF00FFC1,
   0x00FFC800FFC900FFD000FFD100FFD800FFD900FFDD00FFDF00FFE700FFE700FFEF00FFF8,
   0x00FFFE00FFFF01000C01000C01002701002701003B01003B01003E01003E01004E01004F,
   0x01005E01007F0100FB0100FF01010301010601013401013601018F01018F01019D01019F,
   0x0101A10101CF0101FE01027F01029D01029F0102D10102DF0102FC0102FF01032401032C,
   0x01034B01034F01037B01037F01039E01039E0103C40103C70103D60103FF01049E01049F,
   0x0104AA0104AF0104D40104D70104FC0104FF01052801052F01056401056E01057B01057B,
   0x01058B01058B0105930105930105960105960105A20105A20105B20105B20105BA0105BA,
   0x0105BD0105BF0105F40105FF01073701073F01075601075F01076801077F010786010786,
   0x0107B10107B10107BB0107FF01080601080701080901080901083601083601083901083B,
   0x01083D01083E01085601085601089F0108A60108B00108DF0108F30108F30108F60108FA,
   0x01091C01091E01093A01093E01094001097F0109B80109BB0109D00109D1010A04010A04,
   0x010A07010A0B010A14010A14010A18010A18010A36010A37010A3B010A3E010A49010A4F,
   0x010A59010A5F010AA0010ABF010AE7010AEA010AF7010AFF010B36010B38010B56010B57,
   0x010B73010B77010B92010B98010B9D010BA8010BB0010BFF010C49010C7F010CB3010CBF,
   0x010CF3010CF9010D28010D2F010D3A010D3F010D66010D68010D86010D8D010D90010E5F,
   0x010E7F010E7F010EAA010EAA010EAE010EAF010EB2010EC1010EC5010EFB010F28010F2F,
   0x010F5A010F6F010F8A010FAF010FCC010FDF010FF7010FFF01104E01105101107601107E,
   0x0110C30110CC0110CE0110CF0110E90110EF0110FA0110FF01113501113501114801114F,
   0x01117701117F0111E00111E00111F50111FF01121201121201124201127F011287011287,
   0x01128901128901128E01128E01129E01129E0112AA0112AF0112EB0112EF0112FA0112FF,
   0x01130401130401130D01130E011311011312011329011329011331011331011334011334,
   0x01133A01133A01134501134601134901134A01134E01134F01135101135601135801135C,
   0x01136401136501136D01136F01137501137F01138A01138A01138C01138D01138F01138F,
   0x0113B60113B60113C10113C10113C30113C40113C60113C60113CB0113CB0113D60113D6,
   0x0113D90113E00113E30113FF01145C01145C01146201147F0114C80114CF0114DA01157F,
   0x0115B60115B70115DE0115FF01164501164F01165A01165F01166D01167F0116BA0116BF,
   0x0116CA0116CF0116E40116FF01171B01171C01172C01172F0117470117FF01183C01189F,
   0x0118F30118FE01190701190801190A01190B011914011914011917011917011936011936,
   0x01193901193A01194701194F01195A01199F0119A80119A90119D80119D90119E50119FF,
   0x011A48011A4F011AA3011AAF011AF9011AFF011B0A011BBF011BE2011BEF011BFA011BFF,
   0x011C09011C09011C37011C37011C46011C4F011C6D011C6F011C90011C91011CA8011CA8,
   0x011CB7011CFF011D07011D07011D0A011D0A011D37011D39011D3B011D3B011D3E011D3E,
   0x011D48011D4F011D5A011D5F011D66011D66011D69011D69011D8F011D8F011D92011D92,
   0x011D99011D9F011DAA011EDF011EF9011EFF011F11011F11011F3B011F3D011F5B011FAF,
   0x011FB1011FBF011FF2011FFE01239A0123FF01246F01246F01247501247F012544012F8F,
   0x012FF3012FFF01345601345F0143FB0143FF0146470160FF01613A0167FF016A39016A3F,
   0x016A5F016A5F016A6A016A6D016ABF016ABF016ACA016ACF016AEE016AEF016AF6016AFF,
   0x016B46016B4F016B5A016B5A016B62016B62016B78016B7C016B90016D3F016D7A016E3F,
   0x016E9B016EFF016F4B016F4E016F88016F8E016FA0016FDF016FE5016FEF016FF2016FFF,
   0x0187F80187FF018CD6018CFE018D0901AFEF01AFF401AFF401AFFC01AFFC01AFFF01AFFF,
   0x01B12301B13101B13301B14F01B15301B15401B15601B16301B16801B16F01B2FC01BBFF,
   0x01BC6B01BC6F01BC7D01BC7F01BC8901BC8F01BC9A01BC9B01BCA401CBFF01CCFA01CCFF,
   0x01CEB401CEFF01CF2E01CF2F01CF4701CF4F01CFC401CFFF01D0F601D0FF01D12701D128,
   0x01D1EB01D1FF01D24601D2BF01D2D401D2DF01D2F401D2FF01D35701D35F01D37901D3FF,
   0x01D45501D45501D49D01D49D01D4A001D4A101D4A301D4A401D4A701D4A801D4AD01D4AD,
   0x01D4BA01D4BA01D4BC01D4BC01D4C401D4C401D50601D50601D50B01D50C01D51501D515,
   0x01D51D01D51D01D53A01D53A01D53F01D53F01D54501D54501D54701D54901D55101D551,
   0x01D6A601D6A701D7CC01D7CD01DA8C01DA9A01DAA001DAA001DAB001DEFF01DF1F01DF24,
   0x01DF2B01DFFF01E00701E00701E01901E01A01E02201E02201E02501E02501E02B01E02F,
   0x01E06E01E08E01E09001E0FF01E12D01E12F01E13E01E13F01E14A01E14D01E15001E28F,
   0x01E2AF01E2BF01E2FA01E2FE01E30001E4CF01E4FA01E5CF01E5FB01E5FE01E60001E7DF,
   0x01E7E701E7E701E7EC01E7EC01E7EF01E7EF01E7FF01E7FF01E8C501E8C601E8D701E8FF,
   0x01E94C01E94F01E95A01E95D01E96001EC7001ECB501ED0001ED3E01EDFF01EE0401EE04,
   0x01EE2001EE2001EE2301EE2301EE2501EE2601EE2801EE2801EE3301EE3301EE3801EE38,
   0x01EE3A01EE3A01EE3C01EE4101EE4301EE4601EE4801EE4801EE4A01EE4A01EE4C01EE4C,
   0x01EE5001EE5001EE5301EE5301EE5501EE5601EE5801EE5801EE5A01EE5A01EE5C01EE5C,
   0x01EE5E01EE5E01EE6001EE6001EE6301EE6301EE6501EE6601EE6B01EE6B01EE7301EE73,
   0x01EE7801EE7801EE7D01EE7D01EE7F01EE7F01EE8A01EE8A01EE9C01EEA001EEA401EEA4,
   0x01EEAA01EEAA01EEBC01EEEF01EEF201EFFF01F02C01F02F01F09401F09F01F0AF01F0B0,
   0x01F0C001F0C001F0D001F0D001F0F601F0FF01F1AE01F1E501F20301F20F01F23C01F23F,
   0x01F24901F24F01F25201F25F01F26601F2FF01F6D801F6DB01F6ED01F6EF01F6FD01F6FF,
   0x01F77701F77A01F7DA01F7DF01F7EC01F7EF01F7F101F7FF01F80C01F80F01F84801F84F,
   0x01F85A01F85F01F88801F88F01F8AE01F8AF01F8BC01F8BF01F8C201F8FF01FA5401FA5F,
   0x01FA6E01FA6F01FA7D01FA7F01FA8A01FA8E01FAC701FACD01FADD01FADE01FAEA01FAEF,
   0x01FAF901FAFF01FB9301FB9301FBFA01FFFF02A6E002A6FF02B73A02B73F02B81E02B81F,
   0x02CEA202CEAF02EBE102EBEF02EE5E02F7FF02FA1E02FFFF03134B03134F0323B00E0000,
   0x0E00020E001F0E00800E00FF0E01F00EFFFF0FFFFE0FFFFF10FFFE10FFFF]

/-- Every category that holds a character, and the unions of categories, under their
loosely matched names. -/
def byName : List (List String × List PackedRanges) := [
  (["lu", "uppercaseletter"], [uppercaseLetter]),
  (["ll", "lowercaseletter"], [lowercaseLetter]),
  (["lt", "titlecaseletter"], [titlecaseLetter]),
  (["lm", "modifierletter"], [modifierLetter]),
  (["lo", "otherletter"], [otherLetter]),
  (["mn", "nonspacingmark"], [nonspacingMark]),
  (["mc", "spacingmark"], [spacingMark]),
  (["me", "enclosingmark"], [enclosingMark]),
  (["nd", "digit", "decimalnumber"], [decimalNumber]),
  (["nl", "letternumber"], [letterNumber]),
  (["no", "othernumber"], [otherNumber]),
  (["pc", "connectorpunctuation"], [connectorPunctuation]),
  (["pd", "dashpunctuation"], [dashPunctuation]),
  (["ps", "openpunctuation"], [openPunctuation]),
  (["pe", "closepunctuation"], [closePunctuation]),
  (["pi", "initialpunctuation"], [initialPunctuation]),
  (["pf", "finalpunctuation"], [finalPunctuation]),
  (["po", "otherpunctuation"], [otherPunctuation]),
  (["sm", "mathsymbol"], [mathSymbol]),
  (["sc", "currencysymbol"], [currencySymbol]),
  (["sk", "modifiersymbol"], [modifierSymbol]),
  (["so", "othersymbol"], [otherSymbol]),
  (["zs", "spaceseparator"], [spaceSeparator]),
  (["zl", "lineseparator"], [lineSeparator]),
  (["zp", "paragraphseparator"], [paragraphSeparator]),
  (["cc", "cntrl", "control"], [control]),
  (["cf", "format"], [format]),
  (["co", "privateuse"], [privateUse]),
  (["cn", "unassigned"], [unassigned]),
  (["l", "letter"],
    [uppercaseLetter, lowercaseLetter, titlecaseLetter, modifierLetter, otherLetter]),
  (["lc", "casedletter"],
    [uppercaseLetter, lowercaseLetter, titlecaseLetter]),
  (["m", "mark", "combiningmark"],
    [nonspacingMark, spacingMark, enclosingMark]),
  (["n", "number"],
    [decimalNumber, letterNumber, otherNumber]),
  (["p", "punct", "punctuation"],
    [connectorPunctuation, dashPunctuation, openPunctuation, closePunctuation,
     initialPunctuation, finalPunctuation, otherPunctuation]),
  (["s", "symbol"],
    [mathSymbol, currencySymbol, modifierSymbol, otherSymbol]),
  (["z", "separator"],
    [spaceSeparator, lineSeparator, paragraphSeparator])]

/-- The names of the categories of code points that show nothing by themselves: all but
letters, marks, numbers, punctuation, symbols and separators. -/
def otherNames : List String :=
  ["c", "other"]

/-- The categories of code points that show something by themselves. -/
def visible : List PackedRanges :=
  [uppercaseLetter, lowercaseLetter, titlecaseLetter, modifierLetter, otherLetter,
   nonspacingMark, spacingMark, enclosingMark,
   decimalNumber, letterNumber, otherNumber,
   connectorPunctuation, dashPunctuation, openPunctuation, closePunctuation,
   initialPunctuation, finalPunctuation, otherPunctuation,
   mathSymbol, currencySymbol, modifierSymbol, otherSymbol,
   spaceSeparator, lineSeparator, paragraphSeparator]

end Category

end Unicode

end Scopelight
