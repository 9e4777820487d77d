import Scopelight.Unicode.Ranges

/-!
# Sentence breaks

The values of the property that says where sentences end, as packed range tables.
-/

namespace Scopelight

namespace Unicode

namespace SentenceBreak

def ambiguousTerminal : PackedRanges :=
  [0x00002E00002E00202400202400FE5200FE5200FF0E00FF0E]

def carriageReturn : PackedRanges :=
  [0x00000D00000D]

def close : PackedRanges :=
  [0x00002200002200002700002900005B00005B00005D00005D00007B00007B00007D00007D,
   0x0000AB0000AB0000BB0000BB000F3A000F3D00169B00169C00201800201F00203900203A,
   0x00204500204600207D00207E00208D00208E00230800230B00232900232A00275B002760,
   0x0027680027750027C50027C60027E60027EF0029830029980029D80029DB0029FC0029FD,
   0x002E00002E0D002E1C002E1D002E20002E29002E42002E42002E55002E5C003008003011,
   0x00301400301B00301D00301F00FD3E00FD3F00FE1700FE1800FE3500FE4400FE4700FE48,
   0x00FE5900FE5E00FF0800FF0900FF3B00FF3B00FF3D00FF3D00FF5B00FF5B00FF5D00FF5D,
   0x00FF5F00FF6000FF6200FF6301F67601F678]

def extend : PackedRanges :=
  [0x00030000036F0004830004890005910005BD0005BF0005BF0005C10005C20005C40005C5,
   0x0005C70005C700061000061A00064B00065F0006700006700006D60006DC0006DF0006E4,
   0x0006E70006E80006EA0006ED00071100071100073000074A0007A60007B00007EB0007F3,
   0x0007FD0007FD00081600081900081B00082300082500082700082900082D00085900085B,
   0x00089700089F0008CA0008E10008E300090300093A00093C00093E00094F000951000957,
   0x0009620009630009810009830009BC0009BC0009BE0009C40009C70009C80009CB0009CD,
   0x0009D70009D70009E20009E30009FE0009FE000A01000A03000A3C000A3C000A3E000A42,
   0x000A47000A48000A4B000A4D000A51000A51000A70000A71000A75000A75000A81000A83,
   0x000ABC000ABC000ABE000AC5000AC7000AC9000ACB000ACD000AE2000AE3000AFA000AFF,
   0x000B01000B03000B3C000B3C000B3E000B44000B47000B48000B4B000B4D000B55000B57,
   0x000B62000B63000B82000B82000BBE000BC2000BC6000BC8000BCA000BCD000BD7000BD7,
   0x000C00000C04000C3C000C3C000C3E000C44000C46000C48000C4A000C4D000C55000C56,
   0x000C62000C63000C81000C83000CBC000CBC000CBE000CC4000CC6000CC8000CCA000CCD,
   0x000CD5000CD6000CE2000CE3000CF3000CF3000D00000D03000D3B000D3C000D3E000D44,
   0x000D46000D48000D4A000D4D000D57000D57000D62000D63000D81000D83000DCA000DCA,
   0x000DCF000DD4000DD6000DD6000DD8000DDF000DF2000DF3000E31000E31000E34000E3A,
   0x000E47000E4E000EB1000EB1000EB4000EBC000EC8000ECE000F18000F19000F35000F35,
   0x000F37000F37000F39000F39000F3E000F3F000F71000F84000F86000F87000F8D000F97,
   0x000F99000FBC000FC6000FC600102B00103E00105600105900105E001060001062001064,
   0x00106700106D00107100107400108200108D00108F00108F00109A00109D00135D00135F,
   0x0017120017150017320017340017520017530017720017730017B40017D30017DD0017DD,
   0x00180B00180D00180F00180F0018850018860018A90018A900192000192B00193000193B,
   0x001A17001A1B001A55001A5E001A60001A7C001A7F001A7F001AB0001ACE001B00001B04,
   0x001B34001B44001B6B001B73001B80001B82001BA1001BAD001BE6001BF3001C24001C37,
   0x001CD0001CD2001CD4001CE8001CED001CED001CF4001CF4001CF7001CF9001DC0001DFF,
   0x00200C00200D0020D00020F0002CEF002CF1002D7F002D7F002DE0002DFF00302A00302F,
   0x00309900309A00A66F00A67200A67400A67D00A69E00A69F00A6F000A6F100A80200A802,
   0x00A80600A80600A80B00A80B00A82300A82700A82C00A82C00A88000A88100A8B400A8C5,
   0x00A8E000A8F100A8FF00A8FF00A92600A92D00A94700A95300A98000A98300A9B300A9C0,
   0x00A9E500A9E500AA2900AA3600AA4300AA4300AA4C00AA4D00AA7B00AA7D00AAB000AAB0,
   0x00AAB200AAB400AAB700AAB800AABE00AABF00AAC100AAC100AAEB00AAEF00AAF500AAF6,
   0x00ABE300ABEA00ABEC00ABED00FB1E00FB1E00FE0000FE0F00FE2000FE2F00FF9E00FF9F,
   0x0101FD0101FD0102E00102E001037601037A010A01010A03010A05010A06010A0C010A0F,
   0x010A38010A3A010A3F010A3F010AE5010AE6010D24010D27010D69010D6D010EAB010EAC,
   0x010EFC010EFF010F46010F50010F82010F85011000011002011038011046011070011070,
   0x01107301107401107F0110820110B00110BA0110C20110C2011100011102011127011134,
   0x0111450111460111730111730111800111820111B30111C00111C90111CC0111CE0111CF,
   0x01122C01123701123E01123E0112410112410112DF0112EA01130001130301133B01133C,
   0x01133E01134401134701134801134B01134D01135701135701136201136301136601136C,
   0x0113700113740113B80113C00113C20113C20113C50113C50113C70113CA0113CC0113D0,
   0x0113D20113D20113E10113E201143501144601145E01145E0114B00114C30115AF0115B5,
   0x0115B80115C00115DC0115DD0116300116400116AB0116B701171D01172B01182C01183A,
   0x01193001193501193701193801193B01193E0119400119400119420119430119D10119D7,
   0x0119DA0119E00119E40119E4011A01011A0A011A33011A39011A3B011A3E011A47011A47,
   0x011A51011A5B011A8A011A99011C2F011C36011C38011C3F011C92011CA7011CA9011CB6,
   0x011D31011D36011D3A011D3A011D3C011D3D011D3F011D45011D47011D47011D8A011D8E,
   0x011D90011D91011D93011D97011EF3011EF6011F00011F01011F03011F03011F34011F3A,
   0x011F3E011F42011F5A011F5A01344001344001344701345501611E01612F016AF0016AF4,
   0x016B30016B36016F4F016F4F016F51016F87016F8F016F92016FE4016FE4016FF0016FF1,
   0x01BC9D01BC9E01CF0001CF2D01CF3001CF4601D16501D16901D16D01D17201D17B01D182,
   0x01D18501D18B01D1AA01D1AD01D24201D24401DA0001DA3601DA3B01DA6C01DA7501DA75,
   0x01DA8401DA8401DA9B01DA9F01DAA101DAAF01E00001E00601E00801E01801E01B01E021,
   0x01E02301E02401E02601E02A01E08F01E08F01E13001E13601E2AE01E2AE01E2EC01E2EF,
   0x01E4EC01E4EF01E5EE01E5EF01E8D001E8D601E94401E94A0E00200E007F0E01000E01EF]

def format : PackedRanges :=
  [0x0000AD0000AD00061C00061C00070F00070F00180E00180E00200B00200B00200E00200F,
   0x00202A00202E00206000206400206600206F00FEFF00FEFF00FFF900FFFB01343001343F,
   0x01BCA001BCA301D17301D17A0E00010E0001]

def lineFeed : PackedRanges :=
  [0x00000A00000A]

def lower : PackedRanges :=
  [0x00006100007A0000AA0000AA0000B50000B50000BA0000BA0000DF0000F60000F80000FF,
   0x00010100010100010300010300010500010500010700010700010900010900010B00010B,
   0x00010D00010D00010F00010F000111000111000113000113000115000115000117000117,
   0x00011900011900011B00011B00011D00011D00011F00011F000121000121000123000123,
   0x00012500012500012700012700012900012900012B00012B00012D00012D00012F00012F,
   0x00013100013100013300013300013500013500013700013800013A00013A00013C00013C,
   0x00013E00013E000140000140000142000142000144000144000146000146000148000149,
   0x00014B00014B00014D00014D00014F00014F000151000151000153000153000155000155,
   0x00015700015700015900015900015B00015B00015D00015D00015F00015F000161000161,
   0x00016300016300016500016500016700016700016900016900016B00016B00016D00016D,
   0x00016F00016F00017100017100017300017300017500017500017700017700017A00017A,
   0x00017C00017C00017E00018000018300018300018500018500018800018800018C00018D,
   0x00019200019200019500019500019900019B00019E00019E0001A10001A10001A30001A3,
   0x0001A50001A50001A80001A80001AA0001AB0001AD0001AD0001B00001B00001B40001B4,
   0x0001B60001B60001B90001BA0001BD0001BF0001C60001C60001C90001C90001CC0001CC,
   0x0001CE0001CE0001D00001D00001D20001D20001D40001D40001D60001D60001D80001D8,
   0x0001DA0001DA0001DC0001DD0001DF0001DF0001E10001E10001E30001E30001E50001E5,
   0x0001E70001E70001E90001E90001EB0001EB0001ED0001ED0001EF0001F00001F30001F3,
   0x0001F50001F50001F90001F90001FB0001FB0001FD0001FD0001FF0001FF000201000201,
   0x00020300020300020500020500020700020700020900020900020B00020B00020D00020D,
   0x00020F00020F000211000211000213000213000215000215000217000217000219000219,
   0x00021B00021B00021D00021D00021F00021F000221000221000223000223000225000225,
   0x00022700022700022900022900022B00022B00022D00022D00022F00022F000231000231,
   0x00023300023900023C00023C00023F000240000242000242000247000247000249000249,
   0x00024B00024B00024D00024D00024F0002930002950002B80002C00002C10002E00002E4,
   0x00037100037100037300037300037700037700037A00037D0003900003900003AC0003CE,
   0x0003D00003D10003D50003D70003D90003D90003DB0003DB0003DD0003DD0003DF0003DF,
   0x0003E10003E10003E30003E30003E50003E50003E70003E70003E90003E90003EB0003EB,
   0x0003ED0003ED0003EF0003F30003F50003F50003F80003F80003FB0003FC00043000045F,
   0x00046100046100046300046300046500046500046700046700046900046900046B00046B,
   0x00046D00046D00046F00046F000471000471000473000473000475000475000477000477,
   0x00047900047900047B00047B00047D00047D00047F00047F00048100048100048B00048B,
   0x00048D00048D00048F00048F000491000491000493000493000495000495000497000497,
   0x00049900049900049B00049B00049D00049D00049F00049F0004A10004A10004A30004A3,
   0x0004A50004A50004A70004A70004A90004A90004AB0004AB0004AD0004AD0004AF0004AF,
   0x0004B10004B10004B30004B30004B50004B50004B70004B70004B90004B90004BB0004BB,
   0x0004BD0004BD0004BF0004BF0004C20004C20004C40004C40004C60004C60004C80004C8,
   0x0004CA0004CA0004CC0004CC0004CE0004CF0004D10004D10004D30004D30004D50004D5,
   0x0004D70004D70004D90004D90004DB0004DB0004DD0004DD0004DF0004DF0004E10004E1,
   0x0004E30004E30004E50004E50004E70004E70004E90004E90004EB0004EB0004ED0004ED,
   0x0004EF0004EF0004F10004F10004F30004F30004F50004F50004F70004F70004F90004F9,
   0x0004FB0004FB0004FD0004FD0004FF0004FF000501000501000503000503000505000505,
   0x00050700050700050900050900050B00050B00050D00050D00050F00050F000511000511,
   0x00051300051300051500051500051700051700051900051900051B00051B00051D00051D,
   0x00051F00051F000521000521000523000523000525000525000527000527000529000529,
   0x00052B00052B00052D00052D00052F00052F0005600005880010FC0010FC0013F80013FD,
   0x001C80001C88001C8A001C8A001D00001DBF001E01001E01001E03001E03001E05001E05,
   0x001E07001E07001E09001E09001E0B001E0B001E0D001E0D001E0F001E0F001E11001E11,
   0x001E13001E13001E15001E15001E17001E17001E19001E19001E1B001E1B001E1D001E1D,
   0x001E1F001E1F001E21001E21001E23001E23001E25001E25001E27001E27001E29001E29,
   0x001E2B001E2B001E2D001E2D001E2F001E2F001E31001E31001E33001E33001E35001E35,
   0x001E37001E37001E39001E39001E3B001E3B001E3D001E3D001E3F001E3F001E41001E41,
   0x001E43001E43001E45001E45001E47001E47001E49001E49001E4B001E4B001E4D001E4D,
   0x001E4F001E4F001E51001E51001E53001E53001E55001E55001E57001E57001E59001E59,
   0x001E5B001E5B001E5D001E5D001E5F001E5F001E61001E61001E63001E63001E65001E65,
   0x001E67001E67001E69001E69001E6B001E6B001E6D001E6D001E6F001E6F001E71001E71,
   0x001E73001E73001E75001E75001E77001E77001E79001E79001E7B001E7B001E7D001E7D,
   0x001E7F001E7F001E81001E81001E83001E83001E85001E85001E87001E87001E89001E89,
   0x001E8B001E8B001E8D001E8D001E8F001E8F001E91001E91001E93001E93001E95001E9D,
   0x001E9F001E9F001EA1001EA1001EA3001EA3001EA5001EA5001EA7001EA7001EA9001EA9,
   0x001EAB001EAB001EAD001EAD001EAF001EAF001EB1001EB1001EB3001EB3001EB5001EB5,
   0x001EB7001EB7001EB9001EB9001EBB001EBB001EBD001EBD001EBF001EBF001EC1001EC1,
   0x001EC3001EC3001EC5001EC5001EC7001EC7001EC9001EC9001ECB001ECB001ECD001ECD,
   0x001ECF001ECF001ED1001ED1001ED3001ED3001ED5001ED5001ED7001ED7001ED9001ED9,
   0x001EDB001EDB001EDD001EDD001EDF001EDF001EE1001EE1001EE3001EE3001EE5001EE5,
   0x001EE7001EE7001EE9001EE9001EEB001EEB001EED001EED001EEF001EEF001EF1001EF1,
   0x001EF3001EF3001EF5001EF5001EF7001EF7001EF9001EF9001EFB001EFB001EFD001EFD,
   0x001EFF001F07001F10001F15001F20001F27001F30001F37001F40001F45001F50001F57,
   0x001F60001F67001F70001F7D001F80001F87001F90001F97001FA0001FA7001FB0001FB4,
   0x001FB6001FB7001FBE001FBE001FC2001FC4001FC6001FC7001FD0001FD3001FD6001FD7,
   0x001FE0001FE7001FF2001FF4001FF6001FF700207100207100207F00207F00209000209C,
   0x00210A00210A00210E00210F00211300211300212F00212F002134002134002139002139,
   0x00213C00213D00214600214900214E00214E00217000217F0021840021840024D00024E9,
   0x002C30002C5F002C61002C61002C65002C66002C68002C68002C6A002C6A002C6C002C6C,
   0x002C71002C71002C73002C74002C76002C7D002C81002C81002C83002C83002C85002C85,
   0x002C87002C87002C89002C89002C8B002C8B002C8D002C8D002C8F002C8F002C91002C91,
   0x002C93002C93002C95002C95002C97002C97002C99002C99002C9B002C9B002C9D002C9D,
   0x002C9F002C9F002CA1002CA1002CA3002CA3002CA5002CA5002CA7002CA7002CA9002CA9,
   0x002CAB002CAB002CAD002CAD002CAF002CAF002CB1002CB1002CB3002CB3002CB5002CB5,
   0x002CB7002CB7002CB9002CB9002CBB002CBB002CBD002CBD002CBF002CBF002CC1002CC1,
   0x002CC3002CC3002CC5002CC5002CC7002CC7002CC9002CC9002CCB002CCB002CCD002CCD,
   0x002CCF002CCF002CD1002CD1002CD3002CD3002CD5002CD5002CD7002CD7002CD9002CD9,
   0x002CDB002CDB002CDD002CDD002CDF002CDF002CE1002CE1002CE3002CE4002CEC002CEC,
   0x002CEE002CEE002CF3002CF3002D00002D25002D27002D27002D2D002D2D00A64100A641,
   0x00A64300A64300A64500A64500A64700A64700A64900A64900A64B00A64B00A64D00A64D,
   0x00A64F00A64F00A65100A65100A65300A65300A65500A65500A65700A65700A65900A659,
   0x00A65B00A65B00A65D00A65D00A65F00A65F00A66100A66100A66300A66300A66500A665,
   0x00A66700A66700A66900A66900A66B00A66B00A66D00A66D00A68100A68100A68300A683,
   0x00A68500A68500A68700A68700A68900A68900A68B00A68B00A68D00A68D00A68F00A68F,
   0x00A69100A69100A69300A69300A69500A69500A69700A69700A69900A69900A69B00A69D,
   0x00A72300A72300A72500A72500A72700A72700A72900A72900A72B00A72B00A72D00A72D,
   0x00A72F00A73100A73300A73300A73500A73500A73700A73700A73900A73900A73B00A73B,
   0x00A73D00A73D00A73F00A73F00A74100A74100A74300A74300A74500A74500A74700A747,
   0x00A74900A74900A74B00A74B00A74D00A74D00A74F00A74F00A75100A75100A75300A753,
   0x00A75500A75500A75700A75700A75900A75900A75B00A75B00A75D00A75D00A75F00A75F,
   0x00A76100A76100A76300A76300A76500A76500A76700A76700A76900A76900A76B00A76B,
   0x00A76D00A76D00A76F00A77800A77A00A77A00A77C00A77C00A77F00A77F00A78100A781,
   0x00A78300A78300A78500A78500A78700A78700A78C00A78C00A78E00A78E00A79100A791,
   0x00A79300A79500A79700A79700A79900A79900A79B00A79B00A79D00A79D00A79F00A79F,
   0x00A7A100A7A100A7A300A7A300A7A500A7A500A7A700A7A700A7A900A7A900A7AF00A7AF,
   0x00A7B500A7B500A7B700A7B700A7B900A7B900A7BB00A7BB00A7BD00A7BD00A7BF00A7BF,
   0x00A7C100A7C100A7C300A7C300A7C800A7C800A7CA00A7CA00A7CD00A7CD00A7D100A7D1,
   0x00A7D300A7D300A7D500A7D500A7D700A7D700A7D900A7D900A7DB00A7DB00A7F200A7F4,
   0x00A7F600A7F600A7F800A7FA00AB3000AB5A00AB5C00AB6900AB7000ABBF00FB0000FB06,
   0x00FB1300FB1700FF4100FF5A01042801044F0104D80104FB0105970105A10105A30105B1,
   0x0105B30105B90105BB0105BC0107800107800107830107850107870107B00107B20107BA,
   0x010CC0010CF2010D70010D850118C00118DF016E60016E7F01D41A01D43301D44E01D454,
   0x01D45601D46701D48201D49B01D4B601D4B901D4BB01D4BB01D4BD01D4C301D4C501D4CF,
   0x01D4EA01D50301D51E01D53701D55201D56B01D58601D59F01D5BA01D5D301D5EE01D607,
   0x01D62201D63B01D65601D66F01D68A01D6A501D6C201D6DA01D6DC01D6E101D6FC01D714,
   0x01D71601D71B01D73601D74E01D75001D75501D77001D78801D78A01D78F01D7AA01D7C2,
   0x01D7C401D7C901D7CB01D7CB01DF0001DF0901DF0B01DF1E01DF2501DF2A01E03001E06D,
   0x01E92201E943]

def numeric : PackedRanges :=
  [0x00003000003900060000060500066000066900066B00066C0006DD0006DD0006F00006F9,
   0x0007C00007C90008900008910008E20008E200096600096F0009E60009EF000A66000A6F,
   0x000AE6000AEF000B66000B6F000BE6000BEF000C66000C6F000CE6000CEF000D66000D6F,
   0x000DE6000DEF000E50000E59000ED0000ED9000F20000F29001040001049001090001099,
   0x0017E00017E900181000181900194600194F0019D00019DA001A80001A89001A90001A99,
   0x001B50001B59001BB0001BB9001C40001C49001C50001C5900A62000A62900A8D000A8D9,
   0x00A90000A90900A9D000A9D900A9F000A9F900AA5000AA5900ABF000ABF900FF1000FF19,
   0x0104A00104A9010D30010D39010D40010D4901106601106F0110BD0110BD0110CD0110CD,
   0x0110F00110F901113601113F0111D00111D90112F00112F90114500114590114D00114D9,
   0x0116500116590116C00116C90116D00116E30117300117390118E00118E9011950011959,
   0x011BF0011BF9011C50011C59011D50011D59011DA0011DA9011F50011F59016130016139,
   0x016A60016A69016AC0016AC9016B50016B59016D70016D7901CCF001CCF901D7CE01D7FF,
   0x01E14001E14901E2F001E2F901E4F001E4F901E5F101E5FA01E95001E95901FBF001FBF9]

def otherLetter : PackedRanges :=
  [0x0001BB0001BB0001C00001C30002940002940002B90002BF0002C60002D10002EC0002EC,
   0x0002EE0002EE0003740003740005590005590005D00005EA0005EF0005F300062000064A,
   0x00066E00066F0006710006D30006D50006D50006E50006E60006EE0006EF0006FA0006FC,
   0x0006FF0006FF00071000071000071200072F00074D0007A50007B10007B10007CA0007EA,
   0x0007F40007F50007FA0007FA00080000081500081A00081A000824000824000828000828,
   0x00084000085800086000086A00087000088700088900088E0008A00008C9000904000939,
   0x00093D00093D00095000095000095800096100097100098000098500098C00098F000990,
   0x0009930009A80009AA0009B00009B20009B20009B60009B90009BD0009BD0009CE0009CE,
   0x0009DC0009DD0009DF0009E10009F00009F10009FC0009FC000A05000A0A000A0F000A10,
   0x000A13000A28000A2A000A30000A32000A33000A35000A36000A38000A39000A59000A5C,
   0x000A5E000A5E000A72000A74000A85000A8D000A8F000A91000A93000AA8000AAA000AB0,
   0x000AB2000AB3000AB5000AB9000ABD000ABD000AD0000AD0000AE0000AE1000AF9000AF9,
   0x000B05000B0C000B0F000B10000B13000B28000B2A000B30000B32000B33000B35000B39,
   0x000B3D000B3D000B5C000B5D000B5F000B61000B71000B71000B83000B83000B85000B8A,
   0x000B8E000B90000B92000B95000B99000B9A000B9C000B9C000B9E000B9F000BA3000BA4,
   0x000BA8000BAA000BAE000BB9000BD0000BD0000C05000C0C000C0E000C10000C12000C28,
   0x000C2A000C39000C3D000C3D000C58000C5A000C5D000C5D000C60000C61000C80000C80,
   0x000C85000C8C000C8E000C90000C92000CA8000CAA000CB3000CB5000CB9000CBD000CBD,
   0x000CDD000CDE000CE0000CE1000CF1000CF2000D04000D0C000D0E000D10000D12000D3A,
   0x000D3D000D3D000D4E000D4E000D54000D56000D5F000D61000D7A000D7F000D85000D96,
   0x000D9A000DB1000DB3000DBB000DBD000DBD000DC0000DC6000E01000E30000E32000E33,
   0x000E40000E46000E81000E82000E84000E84000E86000E8A000E8C000EA3000EA5000EA5,
   0x000EA7000EB0000EB2000EB3000EBD000EBD000EC0000EC4000EC6000EC6000EDC000EDF,
   0x000F00000F00000F40000F47000F49000F6C000F88000F8C00100000102A00103F00103F,
   0x00105000105500105A00105D00106100106100106500106600106E001070001075001081,
   0x00108E00108E0010D00010FA0010FD00124800124A00124D001250001256001258001258,
   0x00125A00125D00126000128800128A00128D0012900012B00012B20012B50012B80012BE,
   0x0012C00012C00012C20012C50012C80012D60012D800131000131200131500131800135A,
   0x00138000138F00140100166C00166F00167F00168100169A0016A00016EA0016EE0016F8,
   0x00170000171100171F00173100174000175100176000176C00176E0017700017800017B3,
   0x0017D70017D70017DC0017DC0018200018780018800018840018870018A80018AA0018AA,
   0x0018B00018F500190000191E00195000196D0019700019740019800019AB0019B00019C9,
   0x001A00001A16001A20001A54001AA7001AA7001B05001B33001B45001B4C001B83001BA0,
   0x001BAE001BAF001BBA001BE5001C00001C23001C4D001C4F001C5A001C7D001C90001CBA,
   0x001CBD001CBF001CE9001CEC001CEE001CF3001CF5001CF6001CFA001CFA002135002138,
   0x002180002182002185002188002D30002D67002D6F002D6F002D80002D96002DA0002DA6,
   0x002DA8002DAE002DB0002DB6002DB8002DBE002DC0002DC6002DC8002DCE002DD0002DD6,
   0x002DD8002DDE002E2F002E2F00300500300700302100302900303100303500303800303C,
   0x00304100309600309D00309F0030A10030FA0030FC0030FF00310500312F00313100318E,
   0x0031A00031BF0031F00031FF003400004DBF004E0000A48C00A4D000A4FD00A50000A60C,
   0x00A61000A61F00A62A00A62B00A66E00A66E00A67F00A67F00A6A000A6EF00A71700A71F,
   0x00A78800A78800A78F00A78F00A7F700A7F700A7FB00A80100A80300A80500A80700A80A,
   0x00A80C00A82200A84000A87300A88200A8B300A8F200A8F700A8FB00A8FB00A8FD00A8FE,
   0x00A90A00A92500A93000A94600A96000A97C00A98400A9B200A9CF00A9CF00A9E000A9E4,
   0x00A9E600A9EF00A9FA00A9FE00AA0000AA2800AA4000AA4200AA4400AA4B00AA6000AA76,
   0x00AA7A00AA7A00AA7E00AAAF00AAB100AAB100AAB500AAB600AAB900AABD00AAC000AAC0,
   0x00AAC200AAC200AADB00AADD00AAE000AAEA00AAF200AAF400AB0100AB0600AB0900AB0E,
   0x00AB1100AB1600AB2000AB2600AB2800AB2E00ABC000ABE200AC0000D7A300D7B000D7C6,
   0x00D7CB00D7FB00F90000FA6D00FA7000FAD900FB1D00FB1D00FB1F00FB2800FB2A00FB36,
   0x00FB3800FB3C00FB3E00FB3E00FB4000FB4100FB4300FB4400FB4600FBB100FBD300FD3D,
   0x00FD5000FD8F00FD9200FDC700FDF000FDFB00FE7000FE7400FE7600FEFC00FF6600FF9D,
   0x00FFA000FFBE00FFC200FFC700FFCA00FFCF00FFD200FFD700FFDA00FFDC01000001000B,
   0x01000D01002601002801003A01003C01003D01003F01004D01005001005D0100800100FA,
   0x01014001017401028001029C0102A00102D001030001031F01032D01034A010350010375,
   0x01038001039D0103A00103C30103C80103CF0103D10103D501045001049D010500010527,
   0x0105300105630105C00105F3010600010736010740010755010760010767010781010782,
   0x01080001080501080801080801080A01083501083701083801083C01083C01083F010855,
   0x01086001087601088001089E0108E00108F20108F40108F5010900010915010920010939,
   0x0109800109B70109BE0109BF010A00010A00010A10010A13010A15010A17010A19010A35,
   0x010A60010A7C010A80010A9C010AC0010AC7010AC9010AE4010B00010B35010B40010B55,
   0x010B60010B72010B80010B91010C00010C48010D00010D23010D4A010D4F010D6F010D6F,
   0x010E80010EA9010EB0010EB1010EC2010EC4010F00010F1C010F27010F27010F30010F45,
   0x010F70010F81010FB0010FC4010FE0010FF6011003011037011071011072011075011075,
   0x0110830110AF0110D00110E8011103011126011144011144011147011147011150011172,
   0x0111760111760111830111B20111C10111C40111DA0111DA0111DC0111DC011200011211,
   0x01121301122B01123F01124001128001128601128801128801128A01128D01128F01129D,
   0x01129F0112A80112B00112DE01130501130C01130F01131001131301132801132A011330,
   0x01133201133301133501133901133D01133D01135001135001135D011361011380011389,
   0x01138B01138B01138E01138E0113900113B50113B70113B70113D10113D10113D30113D3,
   0x01140001143401144701144A01145F0114610114800114AF0114C40114C50114C70114C7,
   0x0115800115AE0115D80115DB01160001162F0116440116440116800116AA0116B80116B8,
   0x01170001171A01174001174601180001182B0118FF01190601190901190901190C011913,
   0x01191501191601191801192F01193F01193F0119410119410119A00119A70119AA0119D0,
   0x0119E10119E10119E30119E3011A00011A00011A0B011A32011A3A011A3A011A50011A50,
   0x011A5C011A89011A9D011A9D011AB0011AF8011BC0011BE0011C00011C08011C0A011C2E,
   0x011C40011C40011C72011C8F011D00011D06011D08011D09011D0B011D30011D46011D46,
   0x011D60011D65011D67011D68011D6A011D89011D98011D98011EE0011EF2011F02011F02,
   0x011F04011F10011F12011F33011FB0011FB001200001239901240001246E012480012543,
   0x012F90012FF001300001342F0134410134460134600143FA01440001464601610001611D,
   0x016800016A38016A40016A5E016A70016ABE016AD0016AED016B00016B2F016B40016B43,
   0x016B63016B77016B7D016B8F016D40016D6C016F00016F4A016F50016F50016F93016F9F,
   0x016FE0016FE1016FE3016FE30170000187F7018800018CD5018CFF018D0801AFF001AFF3,
   0x01AFF501AFFB01AFFD01AFFE01B00001B12201B13201B13201B15001B15201B15501B155,
   0x01B16401B16701B17001B2FB01BC0001BC6A01BC7001BC7C01BC8001BC8801BC9001BC99,
   0x01DF0A01DF0A01E10001E12C01E13701E13D01E14E01E14E01E29001E2AD01E2C001E2EB,
   0x01E4D001E4EB01E5D001E5ED01E5F001E5F001E7E001E7E601E7E801E7EB01E7ED01E7EE,
   0x01E7F001E7FE01E80001E8C401E94B01E94B01EE0001EE0301EE0501EE1F01EE2101EE22,
   0x01EE2401EE2401EE2701EE2701EE2901EE3201EE3401EE3701EE3901EE3901EE3B01EE3B,
   0x01EE4201EE4201EE4701EE4701EE4901EE4901EE4B01EE4B01EE4D01EE4F01EE5101EE52,
   0x01EE5401EE5401EE5701EE5701EE5901EE5901EE5B01EE5B01EE5D01EE5D01EE5F01EE5F,
   0x01EE6101EE6201EE6401EE6401EE6701EE6A01EE6C01EE7201EE7401EE7701EE7901EE7C,
   0x01EE7E01EE7E01EE8001EE8901EE8B01EE9B01EEA101EEA301EEA501EEA901EEAB01EEBB,
   0x02000002A6DF02A70002B73902B74002B81D02B82002CEA102CEB002EBE002EBF002EE5D,
   0x02F80002FA1D03000003134A0313500323AF]

def sentenceContinue : PackedRanges :=
  [0x00002C00002D00003A00003B00037E00037E00055D00055D00060C00060D0007F80007F8,
   0x00180200180200180800180800201300201400300100300100FE1000FE1100FE1300FE14,
   0x00FE3100FE3200FE5000FE5100FE5400FE5500FE5800FE5800FE6300FE6300FF0C00FF0D,
   0x00FF1A00FF1B00FF6400FF64]

def sentenceTerminal : PackedRanges :=
  [0x00002100002100003F00003F00058900058900061D00061F0006D40006D4000700000702,
   0x0007F90007F900083700083700083900083900083D00083E00096400096500104A00104B,
   0x00136200136200136700136800166E00166E0017350017360017D40017D5001803001803,
   0x001809001809001944001945001AA8001AAB001B4E001B4F001B5A001B5B001B5E001B5F,
   0x001B7D001B7F001C3B001C3C001C7E001C7F00203C00203D002047002049002CF9002CFB,
   0x002E2E002E2E002E3C002E3C002E53002E5400300200300200A4FF00A4FF00A60E00A60F,
   0x00A6F300A6F300A6F700A6F700A87600A87700A8CE00A8CF00A92F00A92F00A9C800A9C9,
   0x00AA5D00AA5F00AAF000AAF100ABEB00ABEB00FE1200FE1200FE1500FE1600FE5600FE57,
   0x00FF0100FF0100FF1F00FF1F00FF6100FF61010A56010A57010F55010F59010F86010F89,
   0x0110470110480110BE0110C10111410111430111C50111C60111CD0111CD0111DE0111DF,
   0x01123801123901123B01123C0112A90112A90113D40113D501144B01144C0115C20115C3,
   0x0115C90115D701164101164201173C01173E011944011944011946011946011A42011A43,
   0x011A9B011A9C011C41011C42011EF7011EF8011F43011F44016A6E016A6F016AF5016AF5,
   0x016B37016B38016B44016B44016D6E016D6F016E98016E9801BC9F01BC9F01DA8801DA88]

def sep : PackedRanges :=
  [0x000085000085002028002029]

def sp : PackedRanges :=
  [0x00000900000900000B00000C0000200000200000A00000A000168000168000200000200A,
   0x00202F00202F00205F00205F003000003000]

def upper : PackedRanges :=
  [0x00004100005A0000C00000D60000D80000DE000100000100000102000102000104000104,
   0x00010600010600010800010800010A00010A00010C00010C00010E00010E000110000110,
   0x00011200011200011400011400011600011600011800011800011A00011A00011C00011C,
   0x00011E00011E000120000120000122000122000124000124000126000126000128000128,
   0x00012A00012A00012C00012C00012E00012E000130000130000132000132000134000134,
   0x00013600013600013900013900013B00013B00013D00013D00013F00013F000141000141,
   0x00014300014300014500014500014700014700014A00014A00014C00014C00014E00014E,
   0x00015000015000015200015200015400015400015600015600015800015800015A00015A,
   0x00015C00015C00015E00015E000160000160000162000162000164000164000166000166,
   0x00016800016800016A00016A00016C00016C00016E00016E000170000170000172000172,
   0x00017400017400017600017600017800017900017B00017B00017D00017D000181000182,
   0x00018400018400018600018700018900018B00018E000191000193000194000196000198,
   0x00019C00019D00019F0001A00001A20001A20001A40001A40001A60001A70001A90001A9,
   0x0001AC0001AC0001AE0001AF0001B10001B30001B50001B50001B70001B80001BC0001BC,
   0x0001C40001C50001C70001C80001CA0001CB0001CD0001CD0001CF0001CF0001D10001D1,
   0x0001D30001D30001D50001D50001D70001D70001D90001D90001DB0001DB0001DE0001DE,
   0x0001E00001E00001E20001E20001E40001E40001E60001E60001E80001E80001EA0001EA,
   0x0001EC0001EC0001EE0001EE0001F10001F20001F40001F40001F60001F80001FA0001FA,
   0x0001FC0001FC0001FE0001FE000200000200000202000202000204000204000206000206,
   0x00020800020800020A00020A00020C00020C00020E00020E000210000210000212000212,
   0x00021400021400021600021600021800021800021A00021A00021C00021C00021E00021E,
   0x00022000022000022200022200022400022400022600022600022800022800022A00022A,
   0x00022C00022C00022E00022E00023000023000023200023200023A00023B00023D00023E,
   0x00024100024100024300024600024800024800024A00024A00024C00024C00024E00024E,
   0x00037000037000037200037200037600037600037F00037F00038600038600038800038A,
   0x00038C00038C00038E00038F0003910003A10003A30003AB0003CF0003CF0003D20003D4,
   0x0003D80003D80003DA0003DA0003DC0003DC0003DE0003DE0003E00003E00003E20003E2,
   0x0003E40003E40003E60003E60003E80003E80003EA0003EA0003EC0003EC0003EE0003EE,
   0x0003F40003F40003F70003F70003F90003FA0003FD00042F000460000460000462000462,
   0x00046400046400046600046600046800046800046A00046A00046C00046C00046E00046E,
   0x00047000047000047200047200047400047400047600047600047800047800047A00047A,
   0x00047C00047C00047E00047E00048000048000048A00048A00048C00048C00048E00048E,
   0x00049000049000049200049200049400049400049600049600049800049800049A00049A,
   0x00049C00049C00049E00049E0004A00004A00004A20004A20004A40004A40004A60004A6,
   0x0004A80004A80004AA0004AA0004AC0004AC0004AE0004AE0004B00004B00004B20004B2,
   0x0004B40004B40004B60004B60004B80004B80004BA0004BA0004BC0004BC0004BE0004BE,
   0x0004C00004C10004C30004C30004C50004C50004C70004C70004C90004C90004CB0004CB,
   0x0004CD0004CD0004D00004D00004D20004D20004D40004D40004D60004D60004D80004D8,
   0x0004DA0004DA0004DC0004DC0004DE0004DE0004E00004E00004E20004E20004E40004E4,
   0x0004E60004E60004E80004E80004EA0004EA0004EC0004EC0004EE0004EE0004F00004F0,
   0x0004F20004F20004F40004F40004F60004F60004F80004F80004FA0004FA0004FC0004FC,
   0x0004FE0004FE000500000500000502000502000504000504000506000506000508000508,
   0x00050A00050A00050C00050C00050E00050E000510000510000512000512000514000514,
   0x00051600051600051800051800051A00051A00051C00051C00051E00051E000520000520,
   0x00052200052200052400052400052600052600052800052800052A00052A00052C00052C,
   0x00052E00052E0005310005560010A00010C50010C70010C70010CD0010CD0013A00013F5,
   0x001C89001C89001E00001E00001E02001E02001E04001E04001E06001E06001E08001E08,
   0x001E0A001E0A001E0C001E0C001E0E001E0E001E10001E10001E12001E12001E14001E14,
   0x001E16001E16001E18001E18001E1A001E1A001E1C001E1C001E1E001E1E001E20001E20,
   0x001E22001E22001E24001E24001E26001E26001E28001E28001E2A001E2A001E2C001E2C,
   0x001E2E001E2E001E30001E30001E32001E32001E34001E34001E36001E36001E38001E38,
   0x001E3A001E3A001E3C001E3C001E3E001E3E001E40001E40001E42001E42001E44001E44,
   0x001E46001E46001E48001E48001E4A001E4A001E4C001E4C001E4E001E4E001E50001E50,
   0x001E52001E52001E54001E54001E56001E56001E58001E58001E5A001E5A001E5C001E5C,
   0x001E5E001E5E001E60001E60001E62001E62001E64001E64001E66001E66001E68001E68,
   0x001E6A001E6A001E6C001E6C001E6E001E6E001E70001E70001E72001E72001E74001E74,
   0x001E76001E76001E78001E78001E7A001E7A001E7C001E7C001E7E001E7E001E80001E80,
   0x001E82001E82001E84001E84001E86001E86001E88001E88001E8A001E8A001E8C001E8C,
   0x001E8E001E8E001E90001E90001E92001E92001E94001E94001E9E001E9E001EA0001EA0,
   0x001EA2001EA2001EA4001EA4001EA6001EA6001EA8001EA8001EAA001EAA001EAC001EAC,
   0x001EAE001EAE001EB0001EB0001EB2001EB2001EB4001EB4001EB6001EB6001EB8001EB8,
   0x001EBA001EBA001EBC001EBC001EBE001EBE001EC0001EC0001EC2001EC2001EC4001EC4,
   0x001EC6001EC6001EC8001EC8001ECA001ECA001ECC001ECC001ECE001ECE001ED0001ED0,
   0x001ED2001ED2001ED4001ED4001ED6001ED6001ED8001ED8001EDA001EDA001EDC001EDC,
   0x001EDE001EDE001EE0001EE0001EE2001EE2001EE4001EE4001EE6001EE6001EE8001EE8,
   0x001EEA001EEA001EEC001EEC001EEE001EEE001EF0001EF0001EF2001EF2001EF4001EF4,
   0x001EF6001EF6001EF8001EF8001EFA001EFA001EFC001EFC001EFE001EFE001F08001F0F,
   0x001F18001F1D001F28001F2F001F38001F3F001F48001F4D001F59001F59001F5B001F5B,
   0x001F5D001F5D001F5F001F5F001F68001F6F001F88001F8F001F98001F9F001FA8001FAF,
   0x001FB8001FBC001FC8001FCC001FD8001FDB001FE8001FEC001FF8001FFC002102002102,
   0x00210700210700210B00210D00211000211200211500211500211900211D002124002124,
   0x00212600212600212800212800212A00212D00213000213300213E00213F002145002145,
   0x00216000216F0021830021830024B60024CF002C00002C2F002C60002C60002C62002C64,
   0x002C67002C67002C69002C69002C6B002C6B002C6D002C70002C72002C72002C75002C75,
   0x002C7E002C80002C82002C82002C84002C84002C86002C86002C88002C88002C8A002C8A,
   0x002C8C002C8C002C8E002C8E002C90002C90002C92002C92002C94002C94002C96002C96,
   0x002C98002C98002C9A002C9A002C9C002C9C002C9E002C9E002CA0002CA0002CA2002CA2,
   0x002CA4002CA4002CA6002CA6002CA8002CA8002CAA002CAA002CAC002CAC002CAE002CAE,
   0x002CB0002CB0002CB2002CB2002CB4002CB4002CB6002CB6002CB8002CB8002CBA002CBA,
   0x002CBC002CBC002CBE002CBE002CC0002CC0002CC2002CC2002CC4002CC4002CC6002CC6,
   0x002CC8002CC8002CCA002CCA002CCC002CCC002CCE002CCE002CD0002CD0002CD2002CD2,
   0x002CD4002CD4002CD6002CD6002CD8002CD8002CDA002CDA002CDC002CDC002CDE002CDE,
   0x002CE0002CE0002CE2002CE2002CEB002CEB002CED002CED002CF2002CF200A64000A640,
   0x00A64200A64200A64400A64400A64600A64600A64800A64800A64A00A64A00A64C00A64C,
   0x00A64E00A64E00A65000A65000A65200A65200A65400A65400A65600A65600A65800A658,
   0x00A65A00A65A00A65C00A65C00A65E00A65E00A66000A66000A66200A66200A66400A664,
   0x00A66600A66600A66800A66800A66A00A66A00A66C00A66C00A68000A68000A68200A682,
   0x00A68400A68400A68600A68600A68800A68800A68A00A68A00A68C00A68C00A68E00A68E,
   0x00A69000A69000A69200A69200A69400A69400A69600A69600A69800A69800A69A00A69A,
   0x00A72200A72200A72400A72400A72600A72600A72800A72800A72A00A72A00A72C00A72C,
   0x00A72E00A72E00A73200A73200A73400A73400A73600A73600A73800A73800A73A00A73A,
   0x00A73C00A73C00A73E00A73E00A74000A74000A74200A74200A74400A74400A74600A746,
   0x00A74800A74800A74A00A74A00A74C00A74C00A74E00A74E00A75000A75000A75200A752,
   0x00A75400A75400A75600A75600A75800A75800A75A00A75A00A75C00A75C00A75E00A75E,
   0x00A76000A76000A76200A76200A76400A76400A76600A76600A76800A76800A76A00A76A,
   0x00A76C00A76C00A76E00A76E00A77900A77900A77B00A77B00A77D00A77E00A78000A780,
   0x00A78200A78200A78400A78400A78600A78600A78B00A78B00A78D00A78D00A79000A790,
   0x00A79200A79200A79600A79600A79800A79800A79A00A79A00A79C00A79C00A79E00A79E,
   0x00A7A000A7A000A7A200A7A200A7A400A7A400A7A600A7A600A7A800A7A800A7AA00A7AE,
   0x00A7B000A7B400A7B600A7B600A7B800A7B800A7BA00A7BA00A7BC00A7BC00A7BE00A7BE,
   0x00A7C000A7C000A7C200A7C200A7C400A7C700A7C900A7C900A7CB00A7CC00A7D000A7D0,
   0x00A7D600A7D600A7D800A7D800A7DA00A7DA00A7DC00A7DC00A7F500A7F500FF2100FF3A,
   0x0104000104270104B00104D301057001057A01057C01058A01058C010592010594010595,
   0x010C80010CB2010D50010D650118A00118BF016E40016E5F01D40001D41901D43401D44D,
   0x01D46801D48101D49C01D49C01D49E01D49F01D4A201D4A201D4A501D4A601D4A901D4AC,
   0x01D4AE01D4B501D4D001D4E901D50401D50501D50701D50A01D50D01D51401D51601D51C,
   0x01D53801D53901D53B01D53E01D54001D54401D54601D54601D54A01D55001D56C01D585,
   0x01D5A001D5B901D5D401D5ED01D60801D62101D63C01D65501D67001D68901D6A801D6C0,
   0x01D6E201D6FA01D71C01D73401D75601D76E01D79001D7A801D7CA01D7CA01E90001E921,
   0x01F13001F14901F15001F16901F17001F189]

/-- The tables under the loosely matched names of their values. -/
def byName : List (List String × PackedRanges) := [
  (["at", "aterm"], ambiguousTerminal),
  (["cr"], carriageReturn),
  (["cl", "close"], close),
  (["ex", "extend"], extend),
  (["fo", "format"], format),
  (["lf"], lineFeed),
  (["lo", "lower"], lower),
  (["nu", "numeric"], numeric),
  (["le", "oletter"], otherLetter),
  (["sc", "scontinue"], sentenceContinue),
  (["st", "sterm"], sentenceTerminal),
  (["se", "sep"], sep),
  (["sp"], sp),
  (["up", "upper"], upper)]

end SentenceBreak

end Unicode

end Scopelight
