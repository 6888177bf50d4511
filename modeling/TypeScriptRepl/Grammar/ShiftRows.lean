/-! Shift rows of the parse automaton, written as differences from a parent row. -/
namespace TypeScriptRepl.Grammar

private def shiftRowsBlock0 : Array Nat := #[
  0x0, 0xa85246a1290000,
  0x2a108925c2209708725c2189708525c21097083243208596811652005947f1651f85667d15e1ec5787a001,
  0x5767915c1e1e36774201d907e7541f9d107e7341f9c907e7178e9b90846d7461a21fa6387e18831a61002,
  0x31a600c517c3145e0c517479453a831403144f0c5138324450c60d4090346d10c45603065f8bc1a82c003,
  0x1482b09d898252259f1092312238c408a7c22100f8827c01f0c587061c1a06106630e189ef85e7bc16004,
  0x314146bb04c90a126d08467ba100c503818e0d2f10300080b242029680072518195ba040c880c96e01005,
  0xef20d006, 0x100e0d006, 0x98688261a1c98686261a1498684261a0c91a8216720459a80006,
  0x59a7f1669f85687d15f1ec57c7a15e9e4572780248d056230246048bce0d245828962060e800c98401009,
  0x98e88263a1c98e86263a1498e84263a0c92082168a045a080006,
  0x5a07f1681f856a7d1601ec5807a15f9e4574780250d056430247848bce0d247028964060ea00c98c0100b,
  0xa2a88006,
  0xa2a8728aa18a2a8528aa10a2a8324ca08a2a8128aa00a2a7f28a9f85827d28a9eca2a7a28a9e4a2a7800d,
  0x2a0e6e41f9b4000450300d05ac300688b0930120000340000c24b8289ee0600001056c03007008a280100e,
  0x1738340000200f, 0x1740340000200f, 0x3608340000200f, 0x728340000200f, 0x740340000200f,
  0x3658340000200f, 0x3370340000200f, 0x3080340000200f, 0x5348340000200f, 0x5350340000200f,
  0x5380340000200f, 0x17a8340000200f, 0x5360340000200f, 0x17b8340000200f,
  0x2a1591a84e42a118928ae20a2b8728ae18a2b8528ae10a2b8324ce08a2b8128ae00a2b7f000,
  0xa2b7e160df4a2b7b28ade8a2b7928ade1e37774205d907f7541fdd107f7341fdc907f71a83db907f6d01e,
  0x1d196887ed8e1f9620c6d8431b600c557c3155e0c557479553a835403154f0c5538319350304d1b453101f,
  0x5ad3065fcbc1a32c0524ac27726094c967c5248c4c8e311229f0c8403f209f047c3171c18746818519020,
  0x230f189efc5e7bd160c5451aed1324c449b43119eec403150e00242c92f0a5a041c9ef0615b40ca2901021, 0x200f,
  0xa688800f,
  0xa688729a218a688529a210a6883250208a688129a200a687f29a1f85887d29a1eca687a29a1e4a6878024,
  0xce347418c45b63066d0be9d01f9e78629ce1624f84a9cc1000282c93c0a28401856e03000008a6601025,
  0x2aea716aa9b5aaa6aa44991f2262a4296a902249f28827ca1c9f286000,
  0x9f28527ca109f2832702089c0812702009c07f2701f89c07d1f19f09c07b2701e8162792701e1e3677027,
  0xec2764309d50c2744309ccce4723b91c6c886e4309b5af2688ac98e2b0620f99843e66011d97c1f25e028,
  0x4765d1e514ec4c500d713c35c4e1f09347c04b0c991447c350318d02d83273b8c45a43066b8bc04c2c029,
  0x1582b11e07009c1911d8516c41327004822e0e23c02c9220a113822282072700196ba0427000c9b80102a,
  0xa88c83700802b, 0x237a62d2296b4ba24a588829621ca588602b,
  0xa5885296210a58832a9a08aa6812a9a00aa67f2a99f8aa67d2371f0aa67b2a99e816a792a99e11b07602d,
  0x12c471b1d9b854a611529804165f07a1784165d0eb13c3ac4e2361348d64b04c91441c3503d0d00003202e,
  0x5c8303b88b40862c0518ac4181c105850aa61208e8381f40c23f02c96c0a000020aa6062a980c99a0102f,
  0xe442d030, 0xc002d030, 0x101a2d030, 0x10282d030, 0x10322d030, 0x11f02d030, 0x11f42d030,
  0x12e42d030, 0x3958b41f80c030, 0xa008828021ca008602b,
  0xa0085280210a008328ca081fe8107f2001fc7f07f1f8a327d28c9eca327a0019e4a32783c89d91da7503a,
  0x11da744769ccf2071ac09b91da6d6cb9a036c610db18039c5f08197839c5d0f813c3e04e0ec8d40cc3403b,
  0x3216c0c00842c0530ac39e1c8c986c39c1428c8482420e23e82c9360a000020a320628c80c9c80103c,
  0x20481080a002027f0809f8004793b01c4000328c986c0000802b,
  0x2b52718ba9b62ea6ab709920da62b6e96b442249cc8827321c9cc86030,
  0x9cc852732109cc8320d1f016e793931d90347540d1d10347340e1c50346d6cd1a21fa6387e1881e65e03f,
  0x3b04f0ec1388304d20b92c3264503b0d00002d0238b00aa1963f04c23e0e0000308f20b63c81099e01040,
  0x2a6a20a9a872a6a18a9a852a6a10a9a83285a08a1681285a00a167f2859f8a167d03d,
  0xa167b2859e815a792859e12d2765009c6c766e15298454a6010597c1e85e1059744464f11193800045042,
  0x41c3502e8d05a8300230b01462b1060700001b105850a16120920389040b24a828a160628580ca6001043,
  0x27da209f68727da189f68527da109f68328ba08a2e81044,
  0xa2e8028b9fca2e7e28b9f4a2e7b28b9e815c7928b9e0eca763c79d4f1e743c79cd07e723b21c6a0e6e045,
  0xf1e6d6c81a21fa6387e18831a610c69803145f0831783145da831403984f0e6138318350320d1b4c31046,
  0x5ae306608bc06c2c0520ac3161c02a0643141428b8482320e23d02c9340a88081ca2e0628b80c9ba01047,
  0x292a20a4a87292a18a4a85292a10a4a832be208af88102b,
  0xaf8802be1fcaf87e2be1f4af87b2be1e817a792be1e1112765021d5408745021cd3f4715021b5b3068049,
  0x3ae4f0eb9380004503f0d00003217f0c00882c2be04823c0e23f82c9b00a000020af8062be00c9f80104a,
  0x1f2262a4296a90224a5688030,
  0xa5687295a18a5685295a10a568328ea08a3a8128ea00a3a7f28e9f8a3a7d1f19f0a3a7b28e9e81647904c,
  0xa3a784651d87c24d1f012c000450380d05b2300000b4a3a120000309020b24e028a3a0628e80ca040104d,
  0xa548829521ca5486295214a548429520ca928203d,
  0xa92812a4a00a927f2a49f8a927d2a49eca927a0581e4a92784629d8d54753551d0d54733429c4d546d04f,
  0x1b26680e913c3a44e0001140dc341700c00802c00006ca921208d0388f60b258028a92062a480ca0201050,
  0xa5e88297a1ca5e86297a14a5e84297a0cadc822b7204adc802b71fcadc7e2b71f4adc7b2b71e817679048,
  0xadc784749d92da754b69d12da734b71c6cce6e4b69b5b32681521845486015117c21a5e1511744124f052,
  0x4124e1560d40f0341760c008a2c0538ac5461c151050adc120910389000b264028adc062b700ca0a01053,
  0x2752209d4872752189d485044,
  0x9d48427520ce9a763551d4d54743551ccd0a713551b5b266810693c41a4e0200b02360e23d82c9a001055,
  0xacc882b321cacc862b3214acc8404b,
  0xacc832d1a08b46812d1a00b467f2d19f8b467d2d19ecb467a0609e4b46784fc1d91d0754741d11d073057,
  0x11b2714741b5b2a680ea93c3aa4e0468d0612300208b0b461208e0388f80b278828b46062d180ca9401058,
  0x2aba20aae872aba18aae852aba10aae832baa08aea81059,
  0xaea802ba9fcaea7e2ba9f4aea7b2ba9e817c792ba9e137276b2a1b8554611551804da5f0881784da5d05a,
  0x4ac4f12b1384e0350400d05f0300550ac4dc1c136850aea120918389060b269028aea062ba80ca760105b,
  0x2aca20ab2872aca18ab2852aca10ab2832bb208aec81059,
  0xaec802bb1fcaec7e2bb1f4aec7b2bb1e817e792bb1e13b076b2d9b85566115598050c5f08897850c5d05d,
  0x4de4f137938510350408d05f2300558ac50e1c143050aec120930389060b269828aec062bb00ca7a0105e,
  0x284a20a1287284a18a1285284a10a128329aa08a6a81048,
  0xa6a8029a9fca6a7e29a9f4a6a7b29a9e815e7929a9e103e76b409b83b4610ed18054e5f08717854e5d060,
  0x2c945011c93c4724e1570d40d23416e0c014a2b15407054e1429a84824a0e250828a6a0629a80c9d201061,
  0x29ba20a6e8729ba18a6e8529ba10a6e832a8a08aa281051,
  0xaa2802a89fcaa27e2a89f4aa27b2a89e8178792a89e126076b261b8552611549804a85f0879784a85d063,
  0x2c845011e93c47a4e12b8d40f6341710c01502b12a8704a8142a884824e0e25a028aa2062a880ca1401064,
  0x2ad220ab4872ad218ab4852ad210ab4832bca08af281059,
  0xaf2802bc9fcaf27e2bc9f4af27b2bc9e8180792bc9e13b476b309b844a6111298053c5f08917853c5d066,
  0x2ca45015313c54c4e1500d41043417e0c01522b14f87053c142bc8482500e26b028af2062bc80ca7c01067,
  0xa5288294a1ca5286294a14a5284294a0ca5282294a04a52802949fca527e2949f4a527b2949e8a5279000,
  0xa527878d9dd03a7641f9d507e7441f9cd07e7241f9c6c886e41f9b5d186887e98e1f8620f99843e660069,
  0x4765f11d9784765d1e514ea0c5011d93c4764e11f0d40ca3409e0c9b4c3116d0c19822fa8e0b81a22c06a,
  0x1582b01009c4781c061064476142948484760e3ac834ba60b24e82834e0888081ca520629480ca640106b,
  0xd500d06c, 0xd7e0d06c, 0x286220a188706c,
  0xa1886286214a188428620ca1882286204a18802861fca187e2861f4a187b2861e8a18792861e0cde7606f,
  0xce4753391d0ce4733391c8ce4713391b5dbc688ac98e2b062b131400be340b00c9cee3116a8c19ae2f070,
  0x2b122e0770b0000270a48782921d061864a1812000034bac0b24b0283ea088a081ca180628600ca2601071,
  0x2d1a20b46872d1a18b46852d1a10b46832d1a08b46812d1a00b467f2d19f8b467d072,
  0xb467b2d19e8b46792d19e0122340b60c8612300768b0b46122ea82c9e20a113820b46062d180cb6001073,
  0x2700009b054,
  0x9a0002640009800025aa1491a84a42a10892b7220adc872b7218adc852b7210adc8325d2085987d075,
  0x7c2b71e54587641f9d507e7441f9cd07e7141f9b5d18681511785444f1511380004d00012c0ee34076,
  0x1b44311730c197e2f0688b0184196bb04c972126d08445440e2e982c97a0a79181ca8206000010ae201077,
  0x7418c45dc3066d0bc9900a078,
  0xb14246c4e90b3422498a821679f5d12311778c19ba2f6cd84c9881273a8449900a87d81caaa06078, 0x343200806c,
  0x602707b, 0xaf0882bc21caf0862bc214af0842bc20caf0822bc204af0802bc1fcaf07e2bc1f4af07b072,
  0xaf07a2bc1e4af0780430d02fc3217d8c07ec270000780001d2bc0489aa0a139820af0062bc00cb040107d,
  0x8002707e]

private def shiftRowsBlock1 : Array Nat := #[
  0x9c08827021c9c086072,
  0x9c0852702109c0832702089c0812702009c07f2701f89c07d2701ec9c07a2701e49c07838c1d90aa71080,
  0x3264502b8d02a2321690c00002e0778b00001e0000749c0122eb82c9220a0dc0209c00627000c9c201081,
  0x10e6710b60c844e08082, 0x10e871083, 0x112e71083, 0x113071083, 0x113471083, 0x115a71083,
  0xb60c844e08082, 0x780001d074, 0x780001d072, 0x2c03208a, 0x2707b,
  0x2a8220aa0872a8218aa0852a8210aa0832a8208aa0812a8200aa07f08b,
  0xaa07e2a81f4aa07b2a81e8aa0792a81e00e2340a88c85c2302a80489660a0dc020aa0062a800caac0108e,
  0x9e0caa382e08a, 0xa6c8829b21ca6c8629b214a6c8429b20ca6c8229b204a6c8029b1fca6c7e08d,
  0xa6c7d29b1eca6c7a29b1e4a6c78b251400d4340b30c85ba3029b0489440a108020a6c0629b00ca7201091,
  0xb30caa382e08a, 0x2a23208a, 0x2707e,
  0x2b7a20ade872b7a18ade852b7a10ade832b7a08ade812b7a00ade7f08d,
  0xade7e2b79f4ade7b2b79e8ade792b79e00f2340ab8c85da302b78489920a0ee020ade062b780cae001096,
  0xab8caa382e08a, 0xaa4882a921caa4862a9214aa4842a920caa4822a9204aa4802a91fcaa47e08b,
  0xaa47d2a91ecaa47a2a91e4aa478b211400fa340b90c85c6302a904896a0a120820aa4062a900cab801099,
  0x2e43208a, 0x2bba20aee872bba18aee852bba10aee832bba08aee812bba00aee7f08b,
  0xaee7e2bb9f4aee7b2bb9e8aee792bb9e010a340bc0c85f4302bb8489a80a12d020aee062bb80cb020109c,
  0xaf4882bd21caf4862bd214af4842bd20caf4822bd204af4802bd1fcaf47e08a,
  0xaf47d2bd1ecaf47a2bd1e4af478b29140110340c20c85fa302bd0489ae0a145820af4062bd00cb080109e,
  0x2f03208a, 0x2fc3208a, 0x3083208a, 0x3580808a, 0x3940808a, 0x40e0808a, 0x46e0808a, 0x4a20808a,
  0x4d40808a, 0x5060808a, 0x5360808a, 0x3dc0808a, 0x4420808a,
  0x2700009b0002680009900026000096000224aa688030,
  0xaa6872a9a18aa6852a9a10aa6830001f0aa6794dc1d8ce4753391d0ce4733391c4ce46d76f1a04165e0ad,
  0x4164f1059380004d00012c324450390d0eae2d0768b01861900004c4160e07b830baa0b000010aa8010ae,
  0xd7c2d0af, 0xd4e2d0af, 0xe462d0af, 0x12ca2d0af, 0x13f62d0af,
  0x2a3220a8c872a3218a8c852a3210a8c832a3208a8c812a3200a8c7f2a31f8a8c7d0af,
  0xa8c7b2a31e8a8c792a31e13ee76b2d9b85566115598050c5f14317850c5d14313c50c4e0c9914510350b5,
  0xda3416f8c20e42d0788b01562b14387050c142a304850c0e080030bb20b253028a8c062a300ca8e010b6,
  0xce4710000c9b682d08003000008082, 0x2a2220a88870af,
  0xa88862a2214a88842a220ca88822a2204a88802a21fca887e2a21f4a887b2a21e8a88792a21e1274760b9,
  0x450360d05bc300000b41e02c187069b6e13252849b6c11000030bb00b252028a88062a200ca8a010ba,
  0x2b2220ac8872b2218ac8852b2210ac8832b2208ac8810b7,
  0xac8802b21fcac87e2b21f4ac87b2b21e8ac8792b21e00ea341758c0ac81225f028ac8062b200caca010bc,
  0x20e42d0b8, 0x2700009b0002680009900026000096000224a9288051,
  0xa92872a4a18a92852a4a10a92830001f0a92794a49d8ce4753391d0ce4733391c4ce46d76f1a039c5e0bf,
  0x39c4f0e71380004d00012c35e450378d01dc2c37f06c1861900004c39c0e090030bac0b000010a90010c0,
  0xbc81b0c1, 0x79c1b0c1, 0x13fc1b0c1, 0x18241b0c1, 0x19601b0c1, 0x1b181b0c1,
  0xa328828ca1ca328628ca14a328428ca0ca328207fa041fc8007f1fc1fc7e28c9f4a327b28c9e8096790c1,
  0xa32784221d9086710c99140c43416c0c01da2c8c986ca3212000030baa0b24d828a320628c80ca34010c8,
  0x20481080a002027f0809f80a6794601c4000328c986c00008082, 0x23a21b0ca, 0x23ca1b0ca, 0x1da21b0ca,
  0x1ca21b0ca, 0x1da61b0ca, 0x1da81b0ca, 0x1ca61b0ca, 0x1ca81b0ca, 0x5b88b40000c0af,
  0x6498b40000c0af, 0x6629e0002700009b0002680009900026000096048,
  0x8928ba20a2e8728ba18a2e8528ba10a2e830001f0a2e794201d907e7541f9d107e7341f9c507e6d0d5,
  0x1d18680c51783144f0c51380004d00012c0c2340688b06621a061064000130c5038ba60b000010a30010d6,
  0xafa8808a,
  0xafa872bea18afa852bea10afa832bea08afa812bea00afa7f2be9f8afa7d2be9ecafa7a2be9e4afa780d8,
  0x14a47603f8d00003217f8c00002e0780b1d4a1326f049d48112ec02c9b20a000020afa062be80cafc010d9,
  0xa1688285a1ca1686285a14a1684285a0ca1682285a04a16802859fca167e2859f4a167b2859e8a16790af,
  0xa167841f1d80004502f0d05a8300000b41dc2c2858480000c2eb02c92a0a2858183ec0428580ca24010db,
  0x9e000068328040d7, 0x9c00026c0009a00026400098062,
  0x96000224a6a8829aa1ca6a8629aa14a6a8429aa0c0007c29a9e52667641f9d507e7441f9cd07e710de,
  0x107e6d7461a054e5e15393c54e4e0001340004b0340d01a22c06106400013153838ba60b108810a78010df,
  0x1140001b000030372040c1,
  0x91000240000892b7208adc7d6d30c45d8306608bc000132b70480001126402a202072b70183ba04078,
  0x9c00026c0009a00026400098065,
  0x96000224aa2882a8a1caa2862a8a14aa2842a8a0c0007c2a89e53b2763391d4ce4743391ccce4710e3,
  0xce46d76f1a04a85e12a13c4a84e0001340004b03e0d01dc2c0618640001312a038bac0b121010ab6010e4,
  0x9c00026c0009a00026400098068,
  0x96000224af2882bca1caf2862bca14af2842bca0c0007c2bc9e54aa763391d4ce4743391ccce4710e6,
  0xce46d76f1a053c5e14f13c53c4e0001340004b0438d01da2c0618640001314f038baa0b146010b06010e7,
  0x9c00026c0009a0002640009805c,
  0x96000224aea882baa1caea862baa14aea842baa0c0007c2ba9e54a6763391d4ce4743391ccce4710e9,
  0xce46d76f1a04da5e13693c4da4e0001340004b0418d01dc2c06186400013136838bac0b12d810afe010ea,
  0xaec882bb21caec862bb214aec842bb20caec822bb204aec802bb1fcaec7e2bb1f4aec7b2bb1e8aec790b7,
  0xaec7852a1d8000450420d05f2300000b41dc2c2bb0480000c2eb02c9a60a2bb0184e8042bb00cb00010ec,
  0xc80002e0000204500408a, 0x1b0ca, 0xb40000c0af, 0xce4710000c800008082, 0x269e50ac716628bc0001b0ca,
  0x81204098790000c800008082, 0x326450f0, 0x204810281e50ea710f1, 0xf8914000040dc, 0x6c0000c0c1,
  0x9c0810f3, 0x187068000040dc, 0x279e50e6710f1, 0x289e50ec710f1, 0x291e5132710f1,
  0x4501406c0000c0c1, 0x541b0fd, 0x561b0fd]

private def shiftRowsBlock2 : Array Nat := #[
  0x5c1b0fd, 0x701b0fd, 0x741b0fd, 0x761b0fd, 0x7c1b0fd, 0x110c71000010a48010ee,
  0x278f787100006899c010d7, 0xbfe710000109ca010e1, 0xbfe71000010994010dc, 0xbfe71000010a70010ee,
  0x12d4710000109ce010dc, 0x12d471000010a20010ee, 0x101871000010982010dc, 0x110c710000109ea010e1,
  0x91078, 0x90000224adc822b71f4f78716d30c45d8306608bc000132b70480001126402a202072b70189d60110e,
  0xbfe71000010a1a010eb, 0x110c71000010a22010dc, 0xf78710000109a2010e0, 0xbfe71000010a1c010ed,
  0xbfe710000109dc010e5, 0xbfe71000010a1e010e8, 0x2780001a0d7, 0xc0b116, 0x40e1, 0x40e5, 0x40dc,
  0xabe882afa1cabe862afa14abe842afa0cabe822afa04abe800ed,
  0xabe7f2af9f8abe7d2af9ecabe7a2af9e4abe780398d05d2302af8489760a2af818000042af80cac00111b,
  0xac2882b0a1cac2862b0a14ac2842b0a0cac2822b0a04ac2800ed,
  0xac27f2b09f8ac27d2b09ecac27a2b09e4ac27803a0d05d4302b08489780a2b0818000042b080cac40111d,
  0x382c000040e1,
  0x91000240000892b7208adc7d6d30c45d8306608bc000132b70480001100302c9900a88081cadc06078,
  0x382c000040dc, 0x302c000040e0, 0x402c000040ee, 0x382c000040e5, 0x382c000040eb, 0x382c000040ed,
  0x402c000040e8, 0x2c2a20b0a872c2a18b0a852c2a10b0a832c2a08b0a812c2a00b0a7f0ee,
  0xb0a7e2c29f4b0a7b2c29e8b0a792c29e14ac760448d0600302c28489b40a2c2818000042c280cb0c01128,
  0x28ea20a3a8728ea18a3a8528ea10a3a8328ea08a3a8128ea00a3a7f0f0,
  0xa3a7e28e9f4a3a7b28e9e8a3a7928e9e126e760001140d63416c8c0a3a1224e028a3a0628e80ca840112a,
  0x9c48827121c9c4862712149c48427120c9c4822712049c4802711fc9c47e0ef,
  0x9c47d2711ec9c47a2711e49c47838e1d8ce4710001140b0341698c09c4122490289c40627100c9c60112c, 0x40eb,
  0x40ed, 0x4439b4000040ee,
  0x24400090000224adc822b71f5b4c311760c19822f00004cadc120000449900a88081cadc06078, 0xf7a6d116,
  0x40e0, 0x3009b4000040e1, 0x40e8, 0x3009b4000040ee, 0x4b59b4000040dc, 0x4b59b4000040ee,
  0x4071b4000040dc, 0x2c5220b14872c5218b14852c5210b14832c5208b14812c5200b147f0ee,
  0xb147e2c51f4b147b2c51e8b14792c51e14dc760458d0608302c50489d00a2c5018000042c500cb160113a,
  0x4439b4000040e1, 0x40ee,
  0x91000240000892b7208adc7d3de9b5b4c311760c19822f00004cadc120000449900a88081cadc06078,
  0x3009b4000040dc, 0x2cda20b36872cda18b36852cda10b36832cda08b36812cda00b367f0ee,
  0xb367e2cd9f4b367b2cd9e8b36792cd9e14e2760460d060a302cd8489d80a2cd818000042cd80cb3801140,
  0x4439b4000040dc, 0x3de9b4000040e0, 0x3009b4000040e5,
  0x2cea20b3a872cea18b3a852cea10b3a832cea08b3a812cea00b3a7f0ee,
  0xb3a7e2ce9f4b3a7b2ce9e8b3a792ce9e14e4760470d060c302ce8489da0a2ce818000042ce80cb3c01145,
  0x3009b4000040eb, 0x2cfa20b3e872cfa18b3e852cfa10b3e832cfa08b3e812cfa00b3e7f0ee,
  0xb3e7e2cf9f4b3e7b2cf9e8b3e792cf9e14e6760478d060e302cf8489de0a2cf818000042cf80cb4001148,
  0x3009b4000040ed, 0x2d0a20b42872d0a18b42852d0a10b42832d0a08b42812d0a00b427f0ee,
  0xb427e2d09f4b427b2d09e8b42792d09e14e8760480d0610302d08489e00a2d0818000042d080cb440114b,
  0x2d2220b48872d2218b48852d2210b48832d2208b48812d2200b487f0ee,
  0xb487e2d21f4b487b2d21e8b48792d21e14ea760490d0614302d20489e40a2d2018000042d200cb4a0114d,
  0x2d3220b4c872d3218b4c852d3210b4c832d3208b4c812d3200b4c7f0ee,
  0xb4c7e2d31f4b4c7b2d31e8b4c792d31e14ec760498d0616302d30489e60a2d3018000042d300cb4e0114f,
  0x3009b4000040e8, 0x2d4220b50872d4218b50852d4210b50832d4208b50812d4200b507f0ee,
  0xb507e2d41f4b507b2d41e8b50792d41e14ee7604a0d0618302d40489e80a2d4018000042d400cb5201152,
  0x2d6220b58872d6218b58852d6210b58832d6208b58812d6200b587f0ee,
  0xb587e2d61f4b587b2d61e8b58792d61e14f07604a8d061a302d60489ec0a2d6018000042d600cb5a01154,
  0xb0000040dc, 0xb0000040ee, 0xb0000040e1, 0x2c116,
  0x91000240000892b7208adc7d6d30c45d8306608bc0002c00004cadc120000449900a88081cadc06078,
  0xb0000040e0, 0xb0000040e5, 0xb0000040eb, 0xb0000040ed, 0xb0000040e8,
  0x2aea716aa9b5aaa6aa4499237a62d2296b4ba256aa885aaa1d6aa865aaa156aa84000,
  0x16aa832371f08da795af1d96bc755af1d16bc735af9c56bc6d7909a22c2638b01896aa5e8cc94ea3e4f160,
  0x2a3e4e2361348d64b04c116306345b28b461e2c02b0656c4136bc03aa7a0c2ae82e336075ae81187001161,
  0x3c90b6b260c162, 0x6410b6b7a0c162, 0x30a8b6bc60c162, 0x69c0b6c0e0c162,
  0x1f2262a4296a902247c67c1f11e47c24d1f012c000458830d02c0320000b40000c0fa82168201162,
  0x9e0c832008167, 0xb30c842008167, 0xa88c837008167, 0xb60c844e08167,
  0x1142c0320000b40000c0fa82168201162, 0xad49c62ea6d8ba9aadc26483698adba5ad1089167,
  0x18ba8862ea1d8ba8662ea158ba8462ea0c8347c20c9e58f47663d1d58f47463d1cd8f67163d1b61ac6816d,
  0x227e6389f1898ba5eadb13eb6c4e20c13482e4b8ba8d064e2c02d0658fc136c9038ad40b63c8117c60116e,
  0xab8c83b808167, 0xb90c848208167, 0xbc0c84b408167, 0xbf0c84e608167, 0xc20c851608167,
  0x5be0b40000c162, 0x5c08b40000c162, 0x3f18b40000c162, 0x3fb8b40000c162, 0x64e8b40000c162,
  0x6538b40000c162, 0x3248b40000c162, 0x32d8b40000c162, 0x6aa0b40000c162, 0x6ae8b40000c162,
  0x58a9da9e2258d688635a1d8d686635a158d684635a0d8d6824792051e280000]

private def shiftRowsBlock3 : Array Nat := #[
  0x11e27f4789f98d67d3891ece247a35e9e4ce27878d9dd7e66e5f99b627e6389f18a33253a9c93ea724e17f,
  0x324455e60d0d78300790b0b781a0660658d6123b80349260c40f02d8d60a63581961c042e300d8d601180,
  0x6402758dc8863721d8dc866372158dc8463720d8dc8247f2051fa8047e9fd1fa7e181,
  0x18dc7d3981ece607a3751e4d6a785f38d0dd2302df8698dc123950349280c6370298dc062e680d8dc01182,
  0x18d88863621d8d8866362158d88463620d8d88247b2051ea80181,
  0x11ea7f47a9f98d87d3909ece427a3641e4d2c785f08d0d8e30636048e400d6360298d8062e380d8d801184,
  0x18da88636a1d8da86636a158da84636a0d8da8247e2051f680181,
  0x11f67f47d9f98da7d3969ece5a7a3671e4d68785f28d0d9a30636848bfc0d6368298da062e500d8da01186,
  0x162a74b781a4058349260c183, 0x10260d188, 0x10300d188, 0x11ee0d181, 0x11f20d185,
  0x18de88637a1d8de86637a158de84637a0d8de824802051fe80181,
  0x11fe7f47f9f98de7d3991ece647a3761e4d6c785f48d0dd6306378490300d6378298de062e800d8de0118d,
  0x12e20d187, 0x10160d187, 0xb40000c162, 0x178e955e31c40003200002168801167,
  0x2b62719a49b66926ac069921ba62c04965f2256d1889192,
  0x19a48866921d9a4866692159a48466920c86c7c21a9e5a5e766979d5a5e746979cd998716979b61b868193,
  0x22dc638b69899a45eb0093ec024e21a1348664b8bc8d06522c02e065a66136cb038ad80b69701180401194,
  0x2b4a70e329b38ca6ab1c99205a62b1a965f4256ce089192,
  0xe328838ca1ce328638ca14e328438ca0c8147c2049e4efc763bf1d4efc743bf1cce4e713bf1b617868196,
  0x21fa6387e188e325eac613eb184e20413480e4b8b90d064c2c02c864f06136c7838ad20b3be810d9801197,
  0x17cc956311c40003200002170a0116f, 0x2b5a70bd09b2f426abbc99215262bba965f5256d1489192,
  0xbd0882f421cbd0862f4214bd0842f420c8527c2141e4c12763049d4c12743049ccbde713049b61b46819a,
  0x22b2638ac188bd05eaee13ebb84e21393484c4b8bb8d06502c02d864c1c136ca038ad60b304010bc20119b,
  0x2b6a7088898191,
  0x2ce2965f5a56d20892219f08847973d1c62d2638b41888824d22012c000458be0d1b380e2b682d9b20119d,
  0x5f6255b3e7100011597c01191, 0x9105a0000c800008167, 0x325bb0b400008167, 0x9145a1a0, 0xf9c5a1a0,
  0xfa42d1a1, 0xfce5a1a0, 0xc045a1a0, 0x19342d1a1, 0xc085a1a0, 0x18cc5a1a0, 0xc722d1a1, 0x18d05a1a0,
  0x1a9c5a1a0, 0x1aa42d1a1, 0x1ab05a1a0, 0x1acc5a1a0, 0x1ad05a1a0, 0xc9b58130000217da01167,
  0xc800008167, 0x254efe713b104ce3a01198, 0xf06131b3, 0xc80000816f, 0xc80000816c,
  0x955af9c5ada0119e, 0x2a4296a902247c4798830d0f06131b3, 0x956981c58d401195,
  0xa90a5aa40891f11e620c341b5, 0x953051c4bd80119c, 0xa90a5aa40891f11e620c341bb,
  0xa90a5aa40891f11e620c341b9, 0xa90a5aa40891f11e620c341b7, 0xbee131bb, 0x237a608dc7c2361348d64b1b2,
  0x18ea88181,
  0x18ea8763aa198ea8563aa118ea8363aa09298813aea00eba7f3ae9f98ea7d49f1ed27c7a4301e4ebe781c1,
  0x17dc6e5f71b40004563a0d10be300a18b18ea12162834b780c00002d8ea0a63a8195c2042ed80d8ea011c2,
  0x3c5a74b7c1a3c5834b7c0c1c3, 0x640274b7e1a640034b7e0c1c3, 0x308a74b801a308834b800c1c3,
  0x69b274b821a69b034b820c1c3, 0x76ca74b841a76c834b840c1c3,
  0xf028088e8b33b984cee600dd97038e5b0dd96837659000,
  0x38c580e315c38c560e31543765404d14c38a520de144378500e213c3884e0e19343844c0e092c3804a1c9,
  0x380490e012037e470df11a33e33a450b82b42c20609c3761d28f06c20e1925485037a0c223024378041ca,
  0x7761b1cb, 0x97e1b1cb, 0x6481b1cb, 0xcba806689e1f3a2d0926142498032c5c0d196c32c5a000,
  0x32c590d1160344570d1158344550cb15012e530d0948330510cc1403404f0d013833e4d0cf13033a4b1cf,
  0x3384a0ce124338480cd91c334468cf8ce7e82e0a08b032c1d19a06820a1928e0503320c1f3024330041d0,
  0x1a1a786861a1d1, 0x1a22786881a1d1,
  0x27599688665a1d99686665a1599684665a0d996824fb2053ea804fa9fd3ea7e181,
  0x19967d4511ed1447a3bb1e4e2a786200d0eea30000069996120000340000c665829996062ee80d996011d4,
  0x163a740001a1638340000c1c3, 0x1642745900d1d6, 0x164a745920d1d6, 0x3e9a74fa60d1d6,
  0x3f6274fd80d1d6, 0x3fd274ff40d1d6, 0x64e2759380d1d6, 0x65327594c0d1d6, 0x6552759540d1d6,
  0x31d274c740d1d6, 0x328274ca00d1d6, 0x32f274cbc0d1d6, 0x6a9a75aa60d1d6, 0x6ae275ab80d1d6,
  0x6b0275ac00d1d6, 0x76da75db60d1d6, 0x76e275db80d1d6, 0x76ea75dba0d1d6, 0x6989e1a60680000c1d1,
  0x20fe9e83f8680000c1d1,
  0x428a00fc1704085b0fc1683f05910196040657101958406550fc150138531011483f2510fc9404024f1cb,
  0x4024e1001343fe4c0ff12c3fa4a0fe9243fa480fe11c3f64642b8b4000270fc0740001b08b0303f2041ea,
  0x10dc2d1eb, 0x2d0970683f40c1eb, 0x2d8968343f40c1eb, 0x2738986c2400c1cb, 0x2938b43f40c1eb,
  0x2681a1ed, 0x2940b43f40c1eb, 0x2d00609c3f40c1eb, 0x9c7641b1cb, 0x9c7661b1cb, 0x9c0521b1cb,
  0x26c1a1ed, 0x9c7681b1cb, 0x9c0581b1cb, 0x9c05a1b1cb, 0x9c76a1b1cb, 0x9c76e1b1cb, 0x9c7721b1cb,
  0x9c05e1b1cb, 0xcf82d1eb]

private def shiftRowsBlock4 : Array Nat := #[
  0xbca1b1ef, 0x2570b43f40c1eb, 0x2578b43f40c1eb, 0x79e1b1ef, 0x13fe1b1ef, 0x18261b1ef, 0x19781b1ef,
  0x1b1a1b1ef, 0x9c0721b1cb, 0x9c0781b1cb, 0x9c07a1b1cb, 0x9c07e1b1cb, 0x2701a1ed, 0x2741a1ed,
  0x2621a1ed, 0x156a806969e0ef9703d65b0ef9683be590f51603d4570f51583d4550ef950136530f49483c2511d1,
  0x3c2500f413c3d04e0f39343cc4c0f292c3c84a0f21243c8480f191c3c4460ef8746961a0000303c20420f,
  0x1bfa787001a210, 0x83fa7a0fe1a210, 0x83f27a0fc1a210, 0x84fa7a1401a210,
  0x887a2221e87887a1a21e85887a1221e83000,
  0x221e82887a0621e808879fe21e7e8879f550a7b5429ea21e798879e1d2c6e74b1b62c2638b018a33253215,
  0x221e3409e0c9b56318878c034c2c01009c19019887848eb20d88782834e088878195bc0488780e22001216,
  0xd500d217, 0xd7e0d217, 0x9d5702295668935c9f52787b1c3,
  0x12787a3ae1e4d707885d9dd78a6e5e29b40005363a8d10b0302e20680001935b8340000c56f8118ea0321a,
  0x2e2868d760d21b, 0x2e4868cfa0d21b, 0x2e2868d1a0d21b, 0x2e60681d20d21b, 0x2e28681d80d21b,
  0x2e78685e40d21b, 0x2e28685e60d21b, 0x2e90687480d21b, 0x2e286874a0d21b,
  0x138a804ba5c13416c4ba5a12e9644ce5813395c4ce561339544ba5404f14c4cc5212f1444bc501cb,
  0x4ca4f1329384c84d1319304c44b1309284c2491309204c04712f9183662712e8740001b0000304bc04225,
  0x512a013b1705025b13b1684ec59140160500571401585005513b15013e5313f9484ee511eb,
  0x4ee5013f13c4fc4e13e9344f84c13d92c4f44a13d1244f44813c91c4f0466e50b44ec1d0000304ee04227,
  0x39a27226, 0x18ee2d228, 0x41427226, 0x47427226, 0x4a627226, 0x4d827226, 0x50a27226, 0x53a27226,
  0x3e427226, 0x44827226, 0x2740000d1d6, 0x15c18a559e258eb8863ae1d8eb86000,
  0x18eb8563ae118eb8363ae09299813aee00ebb7f3aedf8d737d49e5ed2797a3ae5e4d717885dddd78b6e234,
  0x178b6d89fd8e27d62a9cd3ea734e63acd10b1300a1cb0b8b1a63ac498eb0a63ac195bf0463ac0d8eb01235,
  0xb40000c1eb, 0x9e0000680000c1d1,
  0x55ea010997043e5b1099684265910f16043c5710f15843c5510995014053238,
  0x43a5210a94442a5010e13c4384e10d9344344c10c92c4304a10c1244304810b91c42c4610987442a04239,
  0x2700006c0000c1cb, 0x12c2804885c12796c4885a12216449c5812715c49c561271544885405094c49a52226,
  0x48a511229404984f1261384964d1251304924b1241284904912412048e471231180002712207448a0423c,
  0x2780001a210, 0x27226, 0x2d228,
  0x150a8051c5c14c96c51c5a1471645305814c15c5305614c15451c5405114c52e52226,
  0x51e5114794052c4f14b13852a4d14a1305264b14912852449149120522471481180002714707451e04241,
  0x11fa804545c11a96c4545a1151644685811a15c4685611a1544545404e94c46652226,
  0x456511159404644f1191384624d11813045e4b11712845c4911712045a471161180002711507445604243,
  0x9fa0b82822c082864a3814244, 0x1d2a8874aa1dd2a8674aa15d2a8474aa0dd2a82562a05d2a8074a9fdd2a7e217,
  0x1d2a7d5491ed5247a5439e5d2a7800014dd2a340000c550c30000065d2a1274a829d2a0674a80dd2a01246,
  0xd500d247, 0xd7e0d247, 0x74aa05d2a79247, 0xd500d24a, 0xd7e0d24a, 0x19c48867121d9c486000,
  0x19c4856712119c48367120946481518a014627f5189f99c47d49c9ed2727a4299e4eb6786d29b9b4a6d24d,
  0x22c2638b0188324456710d10a43007c0b19c4123ad034bc40c40f02d9c40a6710195ba0467100d9c40124e,
  0x1a4e88693a1da4e86693a15a4e84693a0da4e82523a0548c8024f,
  0x148c7f5231f9a4e7d4a69ed29a7a4619e4f12786938d118430693848d840d693829a4e0669380da4e01250,
  0x1a5688695a1da5686695a15a5684695a0da5682524a054908024f,
  0x14907f5241f9a567d4ae9ed2ba7a46b1e5010786958d11aa30695848d520d695829a560669580da5601252,
  0x1a5a88696a1da5a86696a15a5a84696a0da5a82525a054948024f,
  0x14947f5251f9a5a7d4b09ed2c27a4731e5014786968d11ca30696848e4a0d696829a5a0669680da5a01254,
  0x1a6a8869aa1da6a8669aa15a6a8469aa0da6a82526a054988024f,
  0x14987f5261f9a6a7d4b41ed2d07a4761e50247869a8d11d63069a8492ce0d69a829a6a0669a80da6a01256,
  0x1ad2886b4a1dad2866b4a15ad2846b4a0dad28252820549e8024f,
  0x149e7f5279f9ad27d4b61ed2d87a4781e502e786b48d11de306b48493fa0d6b4829ad2066b480dad201258,
  0x74a9edd2a7a74a8c00000424a, 0xd500d25a, 0xd7e0d25a, 0x8a0002258ea8063a9fd8ea7e63a9f52ec7b21b,
  0x12ec7a4519e58ea780001dd7ee6e5fb9b40004f000139250300f68b00001a392034bc40c0d802161e0425d,
  0xeb20d25e, 0xd500d25e, 0xd7e0d25e, 0x12e00d25e,
  0x154c7b5531e9dca6e7729b40003274a8c000027392034bc40c0d802161e0424a, 0x18ea8163a9e42962c25e,
  0xeb20d263, 0xeb20d264, 0xd500d263, 0xd500d264, 0xd7e0d263, 0xd7e0d264, 0x12e00d263, 0x12e00d264,
  0x795221e5487795219e5485795211e5483795209e5481795201e547f7951f9e547d7951ede547a24f,
  0x1e54797951e2a6c6ea9b1b4326457950d1e5430795049b660d428031e540a7950180000479500de540126d,
  0xc8000272f103036008247, 0xd7e0d26f, 0xd500d26f, 0xe480d26f, 0x12cc0d26f, 0x13f80d26f,
  0x217a8885ea1e17a8685ea1617a8485ea0e17a8285ea0617a8026e,
  0x217a7f85e9fa17a7d85e9ee17a7a85e9e617a7885e8d217a3085e84a0e20d85e82a17a0685e80e17a01275,
  0x1d2a8174a9e5d2a3026f, 0x74aa05d2a7926f,
  0x1b92886e4a1db92866e4a15b92846e4a0db928253fa054fc8053f1fd4fc7e6e49f546a7b51a9e93ca7924f,
  0x1288786df1b9b7c6d0f8915b92344f20c034c2c6e484a8920d49c0300000b6e4829b92066e480db9201279,
  0xd7e0d277, 0xd7e0d278, 0xd500d277, 0xd500d278, 0xe480d277]

private def shiftRowsBlock5 : Array Nat := #[
  0xe480d278, 0x12cc0d277, 0x12cc0d278, 0x13f80d277, 0x13f80d278, 0x15d08a21b,
  0x15ce8935d1f52847b4a11e8edc793b69e17966e5e59b40004f0001390f6300f68b00001a00003562804285,
  0x6d8a21b62876d8a19b62856d8a11b62836d8a094f48153ca014f27f24f,
  0x14f27e6d89f54607b5181e93b87949b1e1b62344ed8c1b62120000340000c6d8829b62066d880db6201287,
  0x1d2a7b74a9e800004263, 0xeb20d289, 0xd500d289, 0xd7e0d289, 0x12e00d289, 0x74b1b9d2c6d28a,
  0x28c80d49c0300000826f, 0x1d2a7b74a9e80000427b, 0xd500d290, 0xe480d290, 0x12cc0d290, 0x13f80d290,
  0x28c80d49c03000008277, 0x150c30295,
  0x57222956c893861f52a27b4a89e8ed8793b59e17926e5e49b50f2300000340000c0000215c60425e,
  0x15e88a579a24e287d4a59ed2967a3ba1e4ee6785e91b97a46d4608c162a04297,
  0x2c7c88b1f21ec7c86b1f216c7c84b1f20ec7c82b1f206c7c80b1f1fec7c7eb1f1f6c7c7bb1f1eac7c79000,
  0x2c7c788cc94ec7c340b00c9cf031b1f0c02921e0a487419019b1f04ac7c0a0fa822c7c06b1f00ec7e01299,
  0xb23222c8c87b2321ac8c85b23212c8c83b2320ac8c81b23202c8c7f29a,
  0x2c8c7eb231f6c8c7bb231eac8c79b231e2c8c340b60cac8c30b2304ac8c0a113822c8c06b2300ec8e0129b,
  0x2280008963a9f50f47963a9e00340b297,
  0x5722295ca8963a9f58ea7b63a9e93c4794f09e0000776789b99e26d63a8c000004286,
  0x578a295e0894f61e53d67867a9b99ea6d29e, 0xa000022c0005b00005000009237,
  0xa000022c0005b00005000009238, 0x15da8a5762258ea8063a9fd8ea7e4f51e53d27867a1b99e86d29e,
  0x581229602894f99e53e4786811b9a046d2a2, 0x340000c25e, 0xa000022c0005b0000500000923a,
  0x15c88963aa058ea790a58b00000b29d, 0x576a258ea814aa1ed2a87a63a9e579c6e5e71b51363000002d5d60429d,
  0x2295de8963aa058ea7d63a9e58ea785e89b97a26d298,
  0x5802258ea814a79ed29e7a63a9e57b06e5ec1b518c3000002d62c0429d, 0x340000c263, 0x340000c264,
  0xa000022c0005b0000500000923b, 0xa000022c0005b0000500000923d,
  0x890a2224287890a1a24285890a1224283890a0a24281890a022427f26e,
  0x22427e8909f62427b8909ea242798909e2242348908c2242120000340000c89082a2420689080e242012ae,
  0xa000022c0005b0000500000923e, 0x340000c26f,
  0x750a21d4287750a19d4285750a11d4283750a0951881545a015167f27a,
  0x15167e7509f54b07b52c1e9468794ef9e1d42345198c1d42120000340000c750829d420675080dd42012b2,
  0x2800008b00016c0002700005000009226, 0x2800008b00016c0002d00005000009228,
  0xa000022c0005b00005000009242, 0x340000c277, 0x340000c278, 0xa000022c0005b00005000009244,
  0x28c80d49c03000008290, 0x57f2295fa894f89e53e07867f9b99fe6d2a2,
  0xa8ca22a3287a8ca1aa3285a8ca12a3283a8ca0aa3281a8ca02a327fa8c9faa327da8c9eea327a000,
  0x2a3279a8c9e233253a8c8d0278326d58c6a323001009c19019a8c84aa320a0c8022a3206a8c80ea34012bc,
  0x7420c4060272bd, 0xb2ea22cba87b2ea1acba85b2ea12cba83b2ea0acba81b2ea02cba7fb2e9facba7d2bd,
  0x2cba7bb2e9eacba79b2e9e2cba340bf0c9cf031b2e8c07ec27b2e84acba0a139822cba06b2e80ecbc012bf,
  0x800272c0, 0x472a0, 0x472a1, 0x472a5, 0x4a91ed2a47a4429e57e46e5f91b51083000002d5d20429d,
  0x4aa1ed2a87a44e1e579c6e5e71b51363000002d5d60429d, 0x8a0002258ea7d44e9e58ea785e81b97a06d298,
  0x4ab1ed2ac7a4509e57ec6e5fb1b51403000002d5ea0429d,
  0x4a79ed29e7a4589e57ae6e5eb9b518c3000002d62c0429d,
  0x4bb9ed2ee7a45a9e57fa6e5fe9b52543000002d6200429d, 0x472ac, 0x472ad,
  0x54a1ed5287a7539b9d4e6d0000215c6042aa, 0x54b1ed52c7a7549b9d526d0000215d2042aa,
  0x12a47b4a91e97e46e5f91b5108300000215d2042ab, 0x54c1ed5307a7591b9d646d0000215d6042aa,
  0x18ea814aa1ed2a87a63a9e579c6e5e71b51363000002d5d60429d, 0x5559ed5567a7851b9e146d00002162a042aa,
  0x54d9ed5367a75b1b9d6c6d0000215ea042aa, 0x18ea814ab1ed2ac7a63a9e57ec6e5fb1b51403000002d5ea0429d,
  0x54e9ed53a7a75d9b9d766d0000215ee042aa, 0x18ea814ac1ed2b07a63a9e57a86e5ea1b515c3000002d5ee0429d,
  0x18ea814a79ed29e7a63a9e57aa6e5ea9b518c3000002d62c0429d,
  0x18ea814a79ed29e7a63a9e57b46e5ed1b518c3000002d62c0429d, 0x54f9ed53e7a75e9b9d7a6d000021608042aa,
  0x18ea814ac9ed2b27a63a9e57f86e5fe1b51663000002d6080429d, 0x340000c289,
  0x18ea814bb9ed2ee7a63a9e57fa6e5fe9b52543000002d6200429d, 0x5509ed5427a7611b9d846d00002160c042aa,
  0x18ea814ad1ed2b47a63a9e57b66e5ed9b51783000002d60c0429d,
  0x18ea814a99ed2a67a63a9e57b86e5ee1b51983000002d62e0429d,
  0x18ea814a99ed2a67a63a9e57ba6e5ee9b51983000002d62e0429d,
  0x18ea814a99ed2a67a63a9e57be6e5ef9b51983000002d62e0429d, 0x5511ed5447a7621b9d886d000021616042aa,
  0x18ea814ad9ed2b67a63a9e57fc6e5ff1b517c3000002d6160429d,
  0x18ea814bc1ed2f07a63a9e57fe6e5ff9b525a3000002d6220429d, 0x5519ed5467a7641b9d906d000021618042aa,
  0x18ea814ab9ed2ae7a63a9e57c06e5f01b51a43000002d6300429d, 0x5521ed5487a7649b9d926d00002161a042aa,
  0x18ea814bc9ed2f27a63a9e58006e6001b525e3000002d6240429d, 0x5561ed5587a7879b9e1e6d00002162c042aa,
  0x5569ed55a7a7889b9e226d00002162e042aa, 0x5571ed55c7a7891b9e246d000021630042aa,
  0x5579ed55e7a7899b9e266d000021632042aa, 0x472b0, 0x5539ed54e7a7751b9dd46d000021620042aa,
  0x5541ed5507a7781b9de06d000021622042aa, 0x5549ed5527a7789b9de26d000021624042aa,
  0x5551ed5547a7791b9de46d000021626042aa, 0x472b4, 0x472b5, 0x472b6, 0x340000c28f,
  0x8a576a258ea8163a9e58ea782a2, 0x8a57ca258ea8163a9e58ea7867c9b99f26d2a2,
  0x8a57e2258ea8163a9e58ea7867e1b99f86d2a2, 0x8a5842258ea8163a9e58ea786859b9a166d2a2,
  0x8a5852258ea8163a9e58ea786891b9a246d2a2, 0x472b9, 0x340000c290, 0x82b7, 0x340000c296,
  0x15267b5499e9514797501b9d406d5448c15c4042f5]

private def shiftRowsBlock6 : Array Nat := #[
  0x7501b9d406d0a20c8000082db, 0x1d2a8174a9e5d2a302ff, 0x74aa05d2a792ff,
  0x54b9ed52e7a7579b9d5e6d0000215d4042aa, 0x151c30303, 0x54e1ed5387a75c1b9d706d0000215ec042aa,
  0x152030305, 0x5501ed5407a75f9b9d7e6d00002160a042aa, 0x14f6782f5,
  0x4a09ed2827a4a01e57946e5e51b58ea3000002d5cc0429d,
  0x12a47b4a91e910a793b79e17e46e5f91b51083000002d5d20429d, 0x7a79b9e9e6d1b1034000082db,
  0x4aa9ed2aa7a4a39e579e6e5e79b58ea3000002d5dc0429d, 0x3bb9e0000082a4, 0x89c1ba2706d1c6034000082db,
  0x89c1ba2706d1c7034000082db, 0x89c1ba2706d1cd034000082db, 0x89c1ba2706d1cd834000082db,
  0x8639ba18e6d845834000082db, 0x89c1ba2706d855034000082db, 0x89c1ba2706d856034000082db,
  0x89c1ba2706d85a034000082db, 0x89c1ba2706d85a834000082db, 0x1d2a812f5, 0x1d2a812ff,
  0x63aa040000b29d, 0x18ea814a91ed2a47a4429e57e46e5f91b51083000002d5d20429d, 0x5479e551c30303,
  0x18ea814aa1ed2a87a44e1e579c6e5e71b51363000002d5d60429d, 0x54c9ed5327a7599b9d666d0000215dc042aa,
  0x2280008963aa058ea7d44f1e58ea785e99b97a66d298,
  0x18ea814ab1ed2ac7a4509e57ec6e5fb1b51403000002d5ea0429d, 0x63aa04000082a4,
  0x12b07b4ac1e915e795ea1b97a86d4570c15ee04320, 0x54f1ed53c7a75e1b9d786d0000215f4042aa,
  0x129e7b4a79e9160795eb1b97ac6d4630c162c04320, 0x129e7b4a79e9164795ec9b97b26d4630c162c04320,
  0x12b27b4ac9e9168795fe1b97f86d4598c160804320, 0x12ee7b4bb9e916a795fe9b97fa6d4950c162004320,
  0x12a67b4a99e917a795ef1b97bc6d4660c162e04320, 0x12f07b4bc1e917e795ff9b97fe6d4968c162204320,
  0x780001d29c, 0x780001d29a, 0x44e0832a, 0x6d90c4000272bd,
  0x2b0c88ac321eb0c86ac3216b0c84ac320eb0c82ac3206b0c80ac31feb0c7e2c0,
  0x2b0c7dac31eeb0c7aac31e6b0c78ac30d02a232ac30c000027ac304ab0c0a0dc022b0c06ac300eb0e0132d,
  0x44e0832c, 0x2d0888b4221ed0886b42216d0884b4220ed0882b42206d0880b421fed087e329,
  0x2d087db421eed087ab421e6d0878b420d02cc326d90c6d0830b4204ad080a108022d0806b4200ed0a01330,
  0x44e08331, 0x44e0832e, 0x2c9c88b2721ec9c86b27216c9c84b2720ec9c82b27206c9c80b271fec9c7e2c0,
  0x2c9c7db271eec9c7ab271e6c9c78b270d02e432b270c000027b2704ac9c0a120822c9c06b2700ec9e01334,
  0x44e08335, 0x2cd888b3621ecd886b36216cd884b3620ecd882b36206cd880b361fecd87e2bd,
  0x2cd87db361eecd87ab361e6cd878b360d02ae32b360c000027b3604acd80a0ee022cd806b3600ecda01337, 0x272c0,
  0x1b6431338, 0x6d90c444e08338, 0x1d0831338, 0x1d1631338,
  0x2cac88b2b21ecac86b2b216cac84b2b20ecac82b2b206cac80b2b1fecac7e2c0,
  0x2cac7db2b1eecac7ab2b1e6cac78b2b0d02f032b2b0c000027b2b04acac0a12d022cac06b2b00ecae0133e,
  0x44e0833f, 0x9c44e082c0, 0x2cc688b31a1ecc686b31a16cc684b31a0ecc682b31a06cc680b319fecc67e2c0,
  0x2cc67db319eecc67ab319e6cc678b318d030832b318c000027b3184acc60a145822cc606b3180ecc801342,
  0x44e08343, 0x35808329, 0x39408329, 0x40e08329, 0x46e08329, 0x4a208329, 0x4d408329, 0x50608329,
  0x53608329, 0x3dc08329, 0x44208329, 0x11c000462a0, 0x11c000462a1, 0x11c000462a5, 0x11c000462ac,
  0x11c000462ad, 0x11c000462b0, 0x1d2a7b74a9e8000042cd, 0x1d2a7b74a9e8000042ce,
  0x8a0002258ea8163a9e58ea782a2, 0x1d666e7599b4000082db, 0x1d2a7b74a9e8000042d2,
  0x8a0002258ea8163a9e58ea7867c9b99f26d2a2, 0x1e1e6e7879b4000082db, 0x1e226e7889b4000082db,
  0x1d2a7b74a9e8000042d0, 0x1d2a7b74a9e8000042d3, 0x1e246e7891b4000082db, 0x1d2a7b74a9e8000042d5,
  0x1d786e75e1b4000082db, 0x1d2a7b74a9e8000042d9, 0x1e266e7899b4000082db, 0x1d846e7611b4000082db,
  0x1d886e7621b4000082db, 0x1d906e7641b4000082db, 0x1d926e7649b4000082db, 0x1dd46e7751b4000082db,
  0x1de06e7781b4000082db, 0x1de26e7789b4000082db, 0x1de46e7791b4000082db, 0x11c000462b4,
  0x11c000462b5, 0x11c000462b6, 0x228000894a39e58ea782a2, 0x2280008951b9e58ea7867c9b99f26d2a2,
  0x2280008951c1e58ea7867d9b99f66d2a2, 0x2280008951f1e58ea786851b9a146d2a2,
  0x228000895209e58ea786889b9a226d2a2, 0x11c000462b9, 0x8a0002258ea8163a9e58ea786809b9a026d2a2,
  0x8a0002258ea8163a9e58ea786829b9a0a6d2a2, 0x8a0002258ea8163a9e58ea786831b9a0c6d2a2,
  0x8a0002258ea8163a9e58ea786849b9a126d2a2, 0x8a0002258ea8163a9e58ea786879b9a1e6d2a2,
  0x8a0002258ea8163a9e58ea7868b1b9a2c6d2a2, 0x8a0002258ea8163a9e58ea7868b9b9a2e6d2a2,
  0x8a0002258ea8163a9e58ea7868c1b9a306d2a2, 0x8a0002258ea8163a9e58ea7868c9b9a326d2a2,
  0x8a0002258ea8163a9e58ea7868e1b9a386d2a2, 0x8a0002258ea8163a9e58ea7868e9b9a3a6d2a2]

private def shiftRowsBlock7 : Array Nat := #[
  0x8a0002258ea8163a9e58ea7868f1b9a3c6d2a2, 0x8a0002258ea8163a9e58ea786909b9a426d2a2,
  0x8a0002258ea8163a9e58ea786911b9a446d2a2, 0x8a0002258ea8163a9e58ea786919b9a466d2a2,
  0x8a0002258ea8163a9e58ea786921b9a486d2a2, 0xc8000270000340000825a, 0x1d406e7501b4000082db,
  0x1d5e6e7579b4000082db, 0x1d706e75c1b4000082db, 0x1d7e6e75f9b4000082db, 0x1d866e7619b4000082db,
  0x1d8a6e7629b4000082db, 0x1d986e7661b4000082db, 0x1d9a6e7669b4000082db, 0x1de86e77a1b4000082db,
  0x1e286e78a1b4000082db, 0x22706e89c1b4000082db, 0x8a0002258ea8163a9e58ea786789b99e26d2a2,
  0x8a0002258ea814a39e58ea782a2, 0x8a0002258ea8151b1e58ea7867b1b99ec6d2a2,
  0x8a0002258ea8163a9e58ea7867b9b99ee6d2a2, 0x8a0002258ea8151b9e58ea7867c9b99f26d2a2,
  0x8a0002258ea8163a9e58ea7867d1b99f46d2a2, 0x8a0002258ea8151c9e58ea7867e9b99fa6d2a2,
  0x8a0002258ea8163a9e58ea7867f1b99fc6d2a2, 0x8a0002258ea8151d1e58ea786801b9a006d2a2,
  0x8a0002258ea8151d9e58ea786819b9a066d2a2, 0x8a0002258ea8163a9e58ea786821b9a086d2a2,
  0x8a0002258ea8151e1e58ea786829b9a0a6d2a2, 0x8a0002258ea8151e9e58ea786839b9a0e6d2a2,
  0x8a0002258ea8163a9e58ea786841b9a106d2a2, 0x8a0002258ea8151f9e58ea786861b9a186d2a2,
  0x8a0002258ea8163a9e58ea786869b9a1a6d2a2, 0x8a0002258ea815201e58ea786871b9a1c6d2a2,
  0x8a0002258ea8163a9e58ea786881b9a206d2a2, 0x8a0002258ea815211e58ea786899b9a266d2a2,
  0x8a0002258ea8163a9e58ea7868a1b9a286d2a2, 0x8a0002258ea815219e58ea7868a9b9a2a6d2a2,
  0x8a0002258ea815221e58ea7868d1b9a346d2a2, 0x8a0002258ea8163a9e58ea7868d9b9a366d2a2,
  0x8a0002258ea815229e58ea7868f9b9a3e6d2a2, 0x8a0002258ea8163a9e58ea786901b9a406d2a2, 0x82db,
  0x4d34f, 0x4d350, 0x4d351, 0x4d352, 0x4d353, 0x4d354, 0x4d36c, 0x4d36d, 0x4d36e, 0x4d374,
  0x1340004c34f, 0x1340004c350, 0x1340004c351, 0x1340004c352, 0x1340004c353, 0x1340004c354,
  0x1340004c36c, 0x1340004c36d, 0x1340004c36e, 0x1340004c374, 0x4b3b5, 0x4b3b6, 0x4b3b7, 0x4b3b8,
  0x4b3b9, 0x4b3ba, 0x4b3bb, 0x4b3bc, 0x4b3bd, 0x4b3be,
  0xa85246a1290a84225d20825581f5e367709e0ca7ca31000,
  0x2a2030a878bc040276bb04db48126d0844eb20d66002dd1e0aa8702434a088c601e31606059816314043c9,
  0xd500d3ca, 0xd7e0d3ca, 0xab8a22ae287ab8a1aae285ab8a12ae283ab8a0aae281000,
  0x2ae280ab89feae27eab89f6ae27bab89eaae279ab89e2ae234ab88c2ae212ab882aae206ab880e8dc013cd,
  0x3431e083ca, 0x1809c170053cf, 0x2c5091b13a42cd0897702095787d78d9de9f831000,
  0x2d1e30b148bdb361373b049cea11392034bc40c66002ddbe0ab3582436a089bf81e7a20605d0167a0043d1,
  0xeb20d3d2, 0xd500d3d2, 0xd7e0d3d2, 0x12e00d3d2, 0x5800015c000560001540004b3b5,
  0x5800015c000560001540004b3b6, 0x5800015c000560001540004b3b7, 0x5800015c000560001540004b3b8,
  0x5800015c000560001540004b3b9, 0x5800015c000560001540004b3ba, 0x5800015c000560001540004b3bb,
  0x5800015c000560001540004b3bc, 0x5800015c000560001540004b3bd, 0x5800015c000560001540004b3be,
  0x27e48f6d6a080000b00002434e08a9301ea4a06000014000043ca, 0xd500d3e1, 0xd7e0d3e1,
  0xd000030364083d2, 0x340000c3d2, 0x34320083e1, 0x60273e6, 0xab8c8000270000343b8083e1,
  0xa4423dcb4820ab8c80000b0000243b808b4901ece606000014000043e4,
  0x1700005a0001640005800015c000560001540005400012c0001d3b5, 0x5c000168000590001500001d3d8,
  0x1700005a0001640005800015c000560001540005400012c0001d3b7, 0x5c000168000590001500001d3da,
  0x1700005a0001640005800015c000560001540005400012c0001d3b9,
  0x1700005a0001640005800015c000560001540005400012c0001d3ba, 0x5c000168000590001500001d3dd,
  0x1700005a0001640005800015c000560001540005400012c0001d3bc,
  0x1700005a0001640005800015c000560001540005400012c0001d3bd,
  0x1700005a0001640005800015c000560001540005400012c0001d3be, 0xc8000083e8, 0x8f748208168053f4,
  0xc8000083e9, 0x16c053f5, 0x8f770208172053f6,
  0x348440d210c348420d2104348400d20fc3483e0d20f43483c0d20ec3483a0d20e4348380d20dc34836000,
  0x390440e410c390420e4104390400e40fc3903e0e40f43903c0e40ec3903a0e40e4390380e40dc39036000,
  0x40a4410290c40a4210290440a401028fc40a3e1028f440a3c1028ec40a3a1028e440a381028dc40a36000,
  0x46c4411b10c46c4211b10446c4011b0fc46c3e11b0f446c3c11b0ec46c3a11b0e446c3811b0dc46c36000,
  0x4a04412810c4a0421281044a0401280fc4a03e1280f44a03c1280ec4a03a1280e44a0381280dc4a036000,
  0x4d24413490c4d2421349044d2401348fc4d23e1348f44d23c1348ec4d23a1348e44d2381348dc4d236000,
  0x5044414110c50442141104504401410fc5043e1410f45043c1410ec5043a1410e4504381410dc50436000]

private def shiftRowsBlock8 : Array Nat := #[
  0x5344414d10c5344214d1045344014d0fc5343e14d0f45343c14d0ec5343a14d0e45343814d0dc53436000,
  0x3d8440f610c3d8420f61043d8400f60fc3d83e0f60f43d83c0f60ec3d83a0f60e43d8380f60dc3d836000,
  0x4404411010c44042110104440401100fc4403e1100f44403c1100ec4403a1100e4440381100dc44036000,
  0xcee6133b980138531011483f2510fc9404024f10093a33e33a450b82b42c0838643f204000,
  0x1700005a00016400054000128000490001200001d3d8,
  0x1092614249801405310e94842a5110a9404384f10e13a33e339fa0b82822c08286442a04000,
  0x1700005a00016400054000128000490001200001d3da, 0x1425312694848a511229404984f12613848a04403,
  0x136530f49483c2510f09403d04f0f41383c204405, 0x1700005a00016400054000128000490001200001d3dd,
  0x13e5313f9484ee5113b9404fc4f13f1384ee04403, 0x1445314b94851e5114794052c4f14b13851e04403,
  0x13a53119948456511159404644f11913845604403,
  0x16aa9b5aaa6aa44995aaa216aa875aaa196aa855aaa116aa83ab99b62c2638b01896aa5e000, 0x2ae86d40d,
  0x2aee6d40d, 0x2af46d40d, 0x2b546d40d, 0x2b566d40d, 0x2b5c6d40d, 0x2b626d40d, 0x2ba06d40d,
  0x2ba26d40d, 0x2ba86d40d, 0x2bae6d40d, 0x2bec6d40d, 0x2bee6d40d, 0x2bf46d40d, 0x2bfa6d40d,
  0x2c346d40d, 0x2c366d40d, 0x2c3c6d40d, 0x2c426d40d, 0x179a710001b40006300018979a0140d,
  0x6679c599e01421, 0x6321c58c801421, 0x3949c4e5201421, 0x2f89c4be201421, 0x7321c5cc801421,
  0x6cf1c5b3c01421, 0x13c0004e403, 0x223a2c000510001409521422302400004428,
  0x12e530d0948330510cc1400004f00013833004405, 0x1f3a2c00051000140a38141f30240000442a,
  0x13c0004e405, 0x5014c43a5242b, 0x134530e2948378510de14037804428, 0x4d14c38a52429, 0x13c0004e407,
  0x5094c49a52429, 0x13c0004e408, 0x4d94c3d25242b, 0x13c531331484bc5112f1404bc04428,
  0x4f14c4cc52429, 0x13c0004e40a, 0x4f94c4fe52429, 0x13c0004e40b, 0x5114c52e52429, 0x13c0004e40c,
  0x4e94c46652429, 0x52429, 0x5242b, 0x5014c0005242b, 0x4d14c00052429, 0x5094c00052429,
  0x4d94c0005242b, 0x4f14c00052429, 0x4f94c00052429, 0x5114c00052429, 0x4e94c00052429,
  0x5100014000004428, 0x510001400000442a, 0x510001400000442c, 0x510001400000442e,
  0x5100014000004430, 0x5100014000004432, 0x5100014000004434, 0x5100014000004436,
  0x5100014000004438, 0x510001400000443a, 0x89f98e27c62a890b986e0e63982d78806a8881231c01000,
  0x22a2638a81882783201009ceb20d0d382018801000, 0x630001881ea2c3aa02daee01451,
  0x22c2638b018860401451, 0xd500d451, 0xd500d452, 0xd500d453, 0xd7e0d451, 0xd7e0d452, 0xd7e0d453,
  0x22b2638ac1882c0320a48782921d0fa820c0a01000, 0x630001881ea2c3aa02d9920145a, 0xb60c844e0845a,
  0x2d8321138223c80145b, 0x52446, 0x52447, 0x52448, 0x52449, 0x5244a, 0x5244b, 0x5244c, 0x5244d,
  0x5244e, 0x5244f, 0x22d2638b4189b600ea98836a600c66181a34e01000, 0x1e4a0e8d1036a560c79281a34801468,
  0x3432008451, 0x3432008452, 0x3432008453, 0x87e98e1f86201809cbf40146a, 0x602746b, 0x602746c,
  0x8ac98e2b0620bf0c87ec27139820c0a01000, 0x80027470, 0x22b94e75c330b08ca9982e0850643ee08000,
  0x1f294e3aa33a180b821019472, 0xa1b9f07ca530b08caa7e2e20609c3ee08000, 0xa00c832a08473,
  0xb38c842408473, 0xa90c837408473, 0xac8c83bc08473, 0xb98c848608473, 0xbc8c84b808473,
  0xbf8c84ea08473, 0xc28c851a08473, 0xb68c845208473, 0x76f1a08a85372e0ce9142e0ad0b020e19000,
  0x7461a088a536d78ce7e82e0a08b020a19000]

private def shiftRowsBlock9 : Array Nat := #[
  0xb80000e8d281a34c01450, 0x61d1f2332531f489c196196e105035408000, 0x61e1f1b9a14481,
  0x187a7c066065b9a14481, 0x187c7c064065b9c14481, 0x6219f1ba414481, 0x18887c066065ba414481,
  0x188a7c064065ba614481, 0x188c7c064065ba814481, 0x188e7c064065bb614481, 0x18907c064065bb814481,
  0x6259f1bbc14481, 0x18987c064065bbe14481, 0x189a7c064065bc014481, 0x189c7c064065be214481,
  0x189e7c064065be414481, 0x18a07c064065bf214481, 0x18a27c064065bf414481, 0x62a1f1bf614481,
  0x18aa7c064065bf814481, 0x18ac7c064065c2214481, 0x18ae7c064065c2414481, 0x18b07c064065c4214481,
  0x18b67c064065c5e14481, 0xaac8340000c468, 0xa292787d2270a687829a1da0105035408000,
  0xab58340000c468, 0x8ef0340000c469, 0x8f90340000c469, 0x780001d45c, 0x780001d45a, 0x2c03249d,
  0x2746d, 0x2a23200009c37008470, 0x2783249d, 0x2cc3200009c4200846d, 0x2cc3249d, 0x6300018a31a01451,
  0xd500d4a5, 0xd7e0d4a5, 0x2a23249d, 0x2e43200009c48208470, 0x2e43249d, 0x2ae3200009c3b80846b,
  0x2ae3200009c3b80846c, 0x2ae3200009c3b80846a, 0x27470, 0x227e6389f189b10014ac,
  0x2ae3200009c3b80846d, 0x2ae3249d, 0x2f03200009c4b408470, 0x2f03249d, 0x2fc3249d,
  0x3083200009c51608470, 0x3083249d, 0x3580849d, 0x3940849d, 0x40e0849d, 0x46e0849d, 0x4a20849d,
  0x4d40849d, 0x5060849d, 0x5360849d, 0x3dc0849d, 0x4420849d, 0x6100018000052446,
  0x6100018000052447, 0x140534c2, 0x134534c1, 0x142534c1, 0x136534c2, 0x13c534c1, 0x13e534c1,
  0x144534c1, 0x13a534c1, 0x233253066064e480d2f103036008000, 0xeb20d4cb, 0xd500d4cb, 0xd7e0d4cb,
  0x12e00d4cb, 0x7d88d1f294ea7e2e1f609c7d608000, 0x7be8e09f236332532e182d9be01000, 0x19c6014d1,
  0x19ce014d1, 0x22d2638b418a390098e381a34e01000, 0x19d8014d1, 0x2e402d9de014d1, 0x2783a208499,
  0x2e402dad8014d1, 0x2e402dae2014d1, 0x1ad4014d1, 0x1ade014d1, 0x1ae6014d1, 0x1ae8014d1, 0x14499,
  0x340000c468, 0x340000c469, 0x7de8d2439687dc4d1f692c7960c000, 0xb0e9e163274b0e1a163034b0e0c000,
  0xb109e163a74b101a163834b100c000, 0xb129e164274b121a164034b120c000, 0x3cf9687a20c4e1,
  0xb189e3daa74b181a3da834b180c000, 0xb1a9e3e9a74b1a1a3e9834b1a0c000,
  0xb1c9e3f6274b1c1a3f6034b1c0c000, 0x2fe9687a80c4e1, 0xb1e9e647274b1e1a647034b1e0c000,
  0xb209e64e274b201a64e034b200c000, 0xb229e653274b221a653034b220c000, 0x6329687ae0c4e1,
  0xb249e311274b241a311034b240c000, 0xb269e31d274b261a31d034b260c000,
  0xb289e328274b281a328034b280c000, 0x6a19687b40c4e1, 0xb2a9e6a2274b2a1a6a2034b2a0c000,
  0xb2c9e6a9a74b2c1a6a9834b2c0c000, 0xb2e9e6ae274b2e1a6ae034b2e0c000, 0x6b21687ba0c4e1,
  0xb309e76d274b301a76d034b300c000, 0xb329e76da74b321a76d834b320c000,
  0xb349e76e274b341a76e034b340c000, 0x6ce9e239a3483a4d20e12c6d01a000, 0x1c1a787081a4f9,
  0x1cc2787321a4f9, 0x849a7a1281a4f9, 0x852a7a14c1a4f9, 0x85927a1661a4f9, 0x14a5]

private def shiftRowsBlock10 : Array Nat := #[
  0x354034000014a5, 0x35f834000014a5, 0xa00c8350084ff, 0xa00c835008500, 0xa00c835008501,
  0x22b94c2c232adf8b83ee08000, 0x1f000027474, 0xb68c845208506, 0xa00c832a08506, 0xa90c837408506,
  0xb38c842408506, 0x34320084a5, 0xac8c83bc08506, 0x602750b, 0xb98c848608506, 0xbc8c84b808506,
  0xbf8c84ea08506, 0xc28c851a08506, 0xb00c82921e0a48743ea08000, 0xb08c82941e0a50743ee08000,
  0xbf8c87f0271fb8744ea08000, 0x80227514, 0xb60c844e08512, 0xb68c845208513, 0x14c0001947e,
  0x14c0001947f, 0xc800008473, 0x8eb0ce8622e51a, 0x8eb8ce8642e51a, 0xc800008472, 0x9d78ce99a2e51d,
  0x9d80ce99c2e51d, 0x22c94e78433a6f8b821619000, 0x9e18ce9c02e520, 0x9e20ce9c22e520,
  0x61d9f2332531f489c19819000, 0x187e7c523, 0x6209f011427523, 0x18927c523, 0x18947c523, 0x18a47c523,
  0x18a67c523, 0x18b27c523, 0x18b47c523, 0x18b87c523, 0xc800008474, 0x1f000014481, 0x1f000014483,
  0x1f000014484, 0x22c14c2181951a, 0x22c14c2181951b, 0x22c14c2181951c, 0x2e582c000014d1,
  0x2e702c000014d1, 0x14d1, 0x2e882c000014d1, 0x144d7, 0x2e402c000014d1,
  0x6e69f07d2276e685035408000, 0x6e91f1ba41453a, 0x6eb1f1baa1453a, 0x6ec1f1bae1453a,
  0x6ed1f1bb21453a, 0x6ef1f1bbc1453a, 0x6f11f1bc21453a, 0x6f21f1bc61453a, 0x6f31f1bca1453a,
  0x6f41f1bce1453a, 0x6f51f1bd21453a, 0x6f61f1bd61453a, 0x6f71f1bda1453a, 0x6f81f1bde1453a,
  0x6fa1f1be61453a, 0x6fb1f1bea1453a, 0x6fc1f1bee1453a, 0x6fd9f1bf61453a, 0x6ff1f1bfa1453a,
  0x7001f1bfe1453a, 0x7011f1c021453a, 0x7021f1c061453a, 0x7031f1c0a1453a, 0x7041f1c0e1453a,
  0x7051f1c121453a, 0x7061f1c161453a, 0x7071f1c1a1453a, 0x7081f1c1e1453a, 0x70a1f1c261453a,
  0x70b1f1c2a1453a, 0x70c1f1c2e1453a, 0x70d1f1c321453a, 0x70e1f1c361453a, 0x70f1f1c3a1453a,
  0x7101f1c3e1453a, 0x7111f1c441453a, 0x7121f1c461453a, 0x7131f1c4a1453a, 0x7141f1c4e1453a,
  0x7151f1c521453a, 0x7161f1c561453a, 0x7171f1c5a1453a, 0x7189f1c601453a, 0x7199f1c641453a,
  0x71a9f1c681453a, 0x71b9f1c6c1453a, 0x71c9f1c701453a, 0x71d9f1c741453a, 0x71e9f1c781453a,
  0xa8aa441ea2c3aa02daee01000, 0x893a7c12c694441a1dc466000, 0x1ffa507fc931fea487d227000,
  0x3df1a1d266656c, 0xd5a6856c, 0x11d46856c, 0x11dc6856c, 0x140a6856c, 0x4b79a1d266656c,
  0x10366856c, 0x2c549156b, 0x8cc94c19019748811e4001000, 0x1f294c0002c4c2,
  0x7941f23325308a09c19019000, 0x74b811e5201576, 0x74d811e5c01576, 0x8b098e2c062aa28b860401000,
  0x2aea7223c8d9e914caba0b000, 0x94d4, 0x751011e7801576, 0xa1b0b820e19577]

private def shiftRowsBlock11 : Array Nat := #[
  0x36827578, 0x1f294c0002c4c1, 0x89f98e27c62b4a8b9b1001000, 0x2b5270ad40b57c, 0x29502e577,
  0xa680b820e19577, 0x29c62e577, 0xa720b820e19577, 0x29ca2e577, 0x22b94e9142e577, 0x7858121c201576,
  0x7880121cc01576, 0xa6d8b820e19577, 0x78b8121bc01576, 0x78c0121c401576, 0x78c8121de01576,
  0x78d0121e201576, 0x749a7c27e694239a1d2666000, 0xa94225e36776610bd56403000,
  0x74f27c27e694319a1d3c66000, 0x1687e20c4e1, 0x23ba368727c22e1348b64b000,
  0x1f294ea882e29306c21019000, 0x77127c27e6933a9a1dc466000, 0xd0468593, 0x15b61b596,
  0x66e0bd57a03592, 0x1ae28c6b69e1ae8680280b000, 0x380b59b, 0x1bb28c6ea9e1bb8680280b000, 0x380b59d,
  0x23b2348924d22412c80609000, 0x2c0b59b, 0x84328e10a9e8438680380b000, 0x2c0b59d,
  0x84ba8e12c9e84c0680380b000, 0x2c0b5a1, 0x2c0b5a3, 0x53ea8d4fa9e53e8694fa0c000, 0x5b806c0000c594,
  0x7f67c595, 0x5bf8b40000c594, 0x6be8b40000c594, 0x6bf0b40000c594, 0x20309c0000c594,
  0x6c18b40000c594, 0x6c20b40000c594, 0x6c28b40000c594, 0x6c30b40000c594, 0x3e006c0000c594,
  0x3f40b40000c594, 0x20b09c0000c594, 0x64906c0000c594, 0x6508b40000c594, 0x21289c0000c594,
  0x31486c0000c594, 0x3268b40000c594, 0x21909c0000c594, 0x6a406c0000c594, 0x6ac8b40000c594,
  0x21f89c0000c594, 0x22889c0000c594, 0x8c87c595, 0x23389c0000c594, 0x8d07c595, 0x8d27c595,
  0x8d47c595, 0x8e07c595, 0x8e47c595, 0x1b596, 0x2803201009c32a08000, 0x150b, 0x60275c6, 0x150d,
  0x2ae320ee02231a01000, 0x2fc321fb09c4e608000, 0x27b2015ca, 0x32513, 0x800275cb, 0x32517,
  0x8a853a6b8b820e19000, 0x29b02e5d0, 0x29b22e5d0, 0x8aa9722a14ebca2e000, 0x8e88d2161348564b000,
  0x88a53a520b820a19000, 0x294a2e5d5, 0x294c2e5d5, 0x8409722294eb2a2e000, 0x8e28d20713481a4b000,
  0xe480d2f103036008000, 0xeb20d5da, 0xd500d5da, 0xd7e0d5da, 0x12e00d5da, 0x12cc0d5da, 0x13f80d5da,
  0x7ca53acc8b821219000, 0x7e8971f294ea7e2e000, 0x8a49722b94eb7e2e000, 0xc594,
  0x8229722c94ec482e000, 0x7c523, 0x23325306606436008000, 0x8e68d20e9348384b000, 0x8c0975e2,
  0x8989722c14ea7e2e000, 0x8ea8d21c9348704b000, 0x7d227a0105035408000, 0x1684718cd81d63601000,
  0xf18718cd81cd8601000, 0x180a718cd81d6a401000, 0xc24718cd81cbbc01000, 0x195c718cd81d75001000,
  0x18e0015ed, 0x9156b, 0x1d327c20609c39208000, 0x53536, 0x1990015f3, 0x1992015f3,
  0x7d88d1f609c7d608000, 0x53534, 0x53535, 0x53539, 0x53537, 0x8b053b048ba2620c000, 0x7c595, 0x2e57b]

private def shiftRowsBlock12 : Array Nat := #[
  0x233253064065e5e01000, 0x1e767c8cc94c19019000, 0x1e7a01600, 0x290281ab036aa005000, 0x1e8601600,
  0x1d3d9f09fda5d3d66000, 0x1ea87c601, 0x1eaa01600, 0x6e20d603, 0x1f62c40f02e25e01000, 0x23c8015f3,
  0x23cc01609, 0x1eb67c8cc94c19619000, 0x1ebe7c8cc94c19819000, 0x1ed07c601, 0x1ed87c60c,
  0x1ede7c60d, 0x1ef47c60d, 0xb7b9e2dec68b7b0c000, 0x1f047c601, 0x1f067c60c, 0x1f0e7c60d,
  0x1f507c60d, 0x1f5a7c601, 0x1f6e7c60c, 0x1f747c60d, 0x1fe67c60d, 0x1fee7c601, 0x1ff07c60c,
  0x20747c60d, 0x208c7c60c, 0x20c47c60d, 0x2e582, 0x21967c60d, 0x959f, 0x219e7c60d, 0x21a47c60d,
  0x21a67c60d, 0x21a87c60d, 0x21aa7c60d, 0x21ca7c601, 0x21ce01600, 0x21d27c601, 0x21d401600,
  0x21d67c601, 0x21d87c601, 0x21da7c601, 0x21dc7c601, 0x21c601600, 0x21d001600, 0x21e401600,
  0x21e601600, 0x2a508978d9dea5a2f000, 0x1e669f1f51a56d068000, 0x2a90015ff, 0x3592,
  0x22d2638b418a38801000, 0x1b800d42803036008000, 0x1e989f1f51a56e668000, 0x5357c, 0x2882015ff,
  0x6fa0d55c03040c08000, 0x28be015ff, 0x21809f1f51a4f2c68000, 0x21020d639, 0xf866863a, 0x53583,
  0x213a0d55f83040c08000, 0x21b09f1f51a590c68000, 0x192a6863a, 0x21b69f1f51a4c3268000, 0xc586863a,
  0x21ba9f1f51a5a7868000, 0x1a966863a, 0x359a, 0x2ce88978d9dd9bc2f000, 0x2c5e2f64b,
  0x220e66883990bb462000, 0x221066884194bb463000, 0x66c9e19b06a3420f000, 0x6709e19c06a7f810000,
  0x6729e19c86a7f810000, 0x6769e19d869b6a0c000, 0x6789e19e069b6a0c000, 0x19c82d08003035608000,
  0x22386688e190bb862000, 0x223a6688e994bb863000, 0x6989e1a606a3420f000, 0x69a9e1a686a7f810000,
  0x69c9e1a706a7f810000, 0x69e9e1a806a7f810000, 0x6a49e1a9069b6a0c000, 0x6a69e1a9869b6a0c000,
  0x1e9c5aa9d04db7001000, 0x6d29e1b506a7f810000, 0x1ece5a65d, 0x29a1e0a68743a608000,
  0x228a668a29916a062000, 0x228c668a31956a063000, 0x20e09e83806a3420f000, 0x20e69e839869b6a0c000,
  0x20e89e83a069b6a0c000, 0x1c7e2d654, 0x16a262655, 0x16a263656, 0x20fe9e83f86a3420f000,
  0x21049e841069b6a0c000, 0x21069e841869b6a0c000, 0x26f65a65d, 0x26f85a65d, 0x22a4668a91901cc62000,
  0x22a6668a99941cc63000, 0x1d462655, 0x1d463656, 0x22b4668ad190bd662000, 0x22b6668ad994bd663000,
  0xbdc62655, 0xbdc63656, 0x22c4668b119058462000, 0x22c6668b199458463000, 0x58662655, 0x58663656,
  0x22d4668b5191b1462000, 0x22d6668b5995b1463000, 0x1b1662655, 0x1b1663656, 0x22de668b7991ac662000,
  0x22e0668b8195ac663000]

private def shiftRowsBlock13 : Array Nat := #[
  0x1aca62655, 0x1aca63656, 0x65c9e19706a7d601000, 0x65e9e19786a7d801000, 0xa446e0a38b0a4201000,
  0xa35a6, 0x6da9eb028b86da1a000, 0x2c0c2e686, 0x163e6e5bc0b163c01000, 0x16466e5bc8b164401000,
  0x164e6e5bd0b164c01000, 0x16566e5bd8b165401000, 0x28a49e0a687829a1d000, 0x95a6e0af8b095801000,
  0x212a9eb028ba12a1a000, 0x2c0c2e68e, 0x170e6e5d88b170c01000, 0x17166e5d90b171401000,
  0x171e6e5d98b171c01000, 0x17266e5da0b172401000, 0x182c6e5dd8b182a01000, 0x18346e5de0b183201000,
  0x183c6e5de8b183a01000, 0x18446e5df0b184201000, 0xa998b80280b000, 0xa9a0b80280b000,
  0xa88c837008000, 0xb60c844e08000, 0xa030aa36829000, 0xac80b80240b000, 0xac88b80240b000,
  0x1b92786e41a000, 0xb68c845208000, 0xb00c83ea08000, 0x78dddd9b02f000, 0x9e0c832008000,
  0xb30c842008000, 0xb00c844e08000, 0xb08c83ee08000, 0xb08c845208000, 0xa00c832a08000,
  0xa90c837408000, 0x9e0c844e08000, 0xab8c83b808000, 0xa00c845208000, 0xb30c844e08000,
  0xb90c848208000, 0xb38c845208000, 0xb38c842408000, 0xa88c844e08000, 0xb90c844e08000,
  0xa90c845208000, 0xbc0c84b408000, 0xbf0c84e608000, 0xc20c851608000, 0xb98c848608000,
  0xb98c845208000, 0xbf8c84ea08000, 0xab8c844e08000, 0xac8c845208000, 0xac8c83bc08000,
  0xbc0c844e08000, 0xbf0c844e08000, 0xc20c844e08000, 0xbc8c84b808000, 0xbc8c845208000,
  0xbf8c845208000, 0xc28c851a08000, 0xc28c845208000, 0xb60c835808000, 0xb68c835a08000,
  0xb60c839408000, 0xb68c839608000, 0xb60c840e08000, 0xb68c841008000, 0xb60c846e08000,
  0xb68c847008000, 0xb60c84a208000, 0xb68c84a408000, 0xb60c84d408000, 0xb68c84d608000,
  0xb60c850608000, 0xb68c850808000, 0xb60c853608000, 0xb68c853808000, 0xb60c83dc08000,
  0xb68c83de08000, 0xb60c844208000, 0xb68c844408000, 0xa6a8b820e19000, 0x22a14ebca2e000,
  0xadd0b802c0b000, 0xadd8b802c0b000, 0x8ea8ce8602e000, 0xaf00b80300b000, 0xaf08b80300b000,
  0x4e14c20e19000, 0x4b94c20a19000, 0xa4a8b820a19000, 0x22294eb2a2e000, 0x5014c20a19000,
  0x4d14c20e19000, 0x9d70ce9982e000, 0x5094c20e19000, 0x4d94c20a19000, 0x4f14c20e19000,
  0x4f94c20e19000, 0x5114c20e19000, 0x4e94c20e19000, 0x53ea794fb1a000, 0x5402795031a000,
  0xa320352700c000, 0x1f294ea7e2e000, 0x8ec0ce8662e000, 0xa088b821019000, 0xa640b821419000,
  0x22b94eb7e2e000, 0x9d88ce99e2e000, 0xa6e8b821619000, 0x22c94ec482e000, 0x8cc94c19819000,
  0x9e10ce9be2e000, 0x9e28ce9c42e000, 0xa088b821219000, 0x22c14ea7e2e000, 0xa088b821819000,
  0xb028b80380b000, 0xb030b80380b000]

private def shiftRowsBlock14 : Array Nat := #[
  0x1f489c35408000, 0x1f294c20a19000, 0x1f294c20e19000, 0x20609c39208000, 0x22c14e2620c000,
  0xa44a2aa105000, 0x22c14ec122e000, 0x8cf06499801000, 0x8cc94c19619000, 0xa890baa5201000,
  0x8cc94c19019000, 0x1d80c875e27000, 0x1f90c875e27000, 0x1d88c875e27000, 0x1e60b23dc0d000,
  0x7a667c7d569000, 0xa787829c1d000, 0x1fc8c875e27000, 0x9ea0654b401000, 0x1df8c875e27000,
  0x20f0c875e27000, 0x1e00c875e27000, 0x2110c875e27000, 0x1e40c875e27000, 0x22f0c875e27000,
  0x1e48c875e27000, 0x2310c875e27000, 0xa890bacea01000, 0x78d9dd9882f000, 0x63982ea2204000,
  0x78d9dd58603000, 0x1f294c21019000, 0x88e59a23964000, 0x88ed9a23b65000, 0x22294c20a19000,
  0x22b94c21419000, 0x22a14c20e19000, 0x22c94c21619000, 0x22c14c21819000, 0x78d9dd9b02f000,
  0x9f50701ec19000, 0x8d083de4409000, 0x66002e31a01000, 0xa9301ea5201000, 0x8cc94c7d008000,
  0x6708350a00c000, 0x4288352700c000, 0x8d906c1920c000, 0x6720b42000c000, 0x42b8b422c0c000,
  0xa9d04db7001000, 0xa080b821019000, 0x79a16a2360c000, 0x89f98e27c62000, 0x8e28359d00c000,
  0xaa683598e0c000, 0xaa723239601000, 0x4368352700c000, 0x6750350a00c000, 0x6758350a00c000,
  0x4378352700c000, 0x8e886c1940c000, 0x7530640240b000, 0x43b8b422c0c000, 0x6780b42000c000,
  0x5b90b46bc0c000, 0x24496879a0c000, 0x7a716a2580c000, 0x2aea70aba0b000, 0x38986c2400c000,
  0x8ef0359e60c000, 0x8d281a88c01000, 0x8d281a88e01000, 0xaac8359940c000, 0x5be8b46f20c000,
  0x1bf0355720c000, 0x38b06c2400c000, 0x8d281a8c401000, 0x8d281a8c601000, 0x8b098e2c062000,
  0x20609e8da1b000, 0x1c68355740c000, 0x1c78355760c000, 0xb4901ecea01000, 0x71f0350a00c000,
  0x33d8352700c000, 0x76906c19a0c000, 0x71f8b42000c000, 0x33e0b422c0c000, 0xa4a0b820a19000,
  0x9bc96a2980c000, 0x3448352700c000, 0x7200350a00c000, 0x7208350a00c000, 0x3450352700c000,
  0x76986c19c0c000, 0x3460b422c0c000, 0x7210b42000c000, 0x3e10b474c0c000, 0x3e89687a60c000,
  0x9bd96a29c0c000, 0x2b5270ad40b000, 0x2f286c2400c000, 0x3f20b474e0c000, 0x84f0355800c000,
  0x2f306c2400c000, 0x8558355820c000, 0x8568355840c000, 0xa410352700c000, 0x72906c19e0c000,
  0xa638b821419000, 0xa418352700c000, 0xa420352700c000, 0x72986c1a00c000, 0x64a0b47500c000,
  0x3019687ac0c000, 0x1e786c2400c000, 0x64f0b47520c000, 0x1e806c2400c000, 0xa6a0b820e19000,
  0x3158b47540c000, 0x6339687b20c000, 0x4ff86c2400c000, 0x3250b47560c000, 0x50006c2400c000,
  0xa6e0b821619000, 0x6a50b47580c000, 0x6a89687b80c000]

private def shiftRowsBlock15 : Array Nat := #[
  0x60986c2400c000, 0x6aa8b475a0c000, 0x60a06c2400c000, 0x6b39687bc0c000, 0x65e06c2400c000,
  0x65e86c2400c000, 0x6c686c2400c000, 0x6c706c2400c000, 0xa750701fa19000, 0x66002e7b201000,
  0xa080b821219000, 0xa080b821819000, 0x8cc94c8b408000, 0x1982786601a000, 0x19a2786681a000,
  0xa96011e4c01000, 0x1a0a786821a000, 0x1a12786841a000, 0x1a1a786861a000, 0x1a22786881a000,
  0x2901b8a3e01000, 0x2911b8a4201000, 0x1a4a786941a000, 0xaa4811e6e01000, 0x1a8a786a21a000,
  0x1a727869c1a000, 0x5a51b969201000, 0x5a69b969801000, 0x5a79b969c01000, 0x1b22786ca1a000,
  0x1b32786cc1a000, 0x1b5a786d61a000, 0x1b62786d81a000, 0x1b72786de1a000, 0x58f9b963c01000,
  0x5909b964001000, 0x5929b964801000, 0x5949b965001000, 0x2541b894e01000, 0x1c2a7870c1a000,
  0xa80782a01d000, 0x20289c7ee1d000, 0x2559b895401000, 0x2569b895801000, 0x83e27a0fa1a000,
  0x3e31b8f8a01000, 0x3e59b8f9401000, 0x3e69b8f9801000, 0x846a7a11c1a000, 0x847a7a11e1a000,
  0x3ea9b8fa801000, 0x3eb9b8fac01000, 0x3ed9b8fb401000, 0x3ef9b8fbc01000, 0x2821b8a0601000,
  0x6061b981601000, 0x6079b981c01000, 0x6089b982001000, 0x5c39b970c01000, 0x5c49b971001000,
  0x5c69b971801000, 0x5c89b972001000, 0x2971b8a5a01000, 0x3179b8c5c01000, 0x31a1b8c6601000,
  0x31b1b8c6a01000, 0x31e1b8c7601000, 0x31f1b8c7a01000, 0x3211b8c8201000, 0x3231b8c8a01000,
  0x2a61b8a9601000, 0x65b1b996a01000, 0x65c9b997001000, 0x65d9b997401000, 0x60b1b982a01000,
  0x60c1b982e01000, 0x60e1b983601000, 0x6101b983e01000, 0x2a79b8a9c01000, 0x2b41b8ace01000,
  0x2839b8a0c01000, 0xb498121c001000, 0xb4b0121c801000, 0x280b000, 0x5e09e000, 0x6b49e000,
  0x6e69e000, 0x6e89e000, 0x6f09e000, 0x7029e000, 0x7109e000, 0x7129e000, 0x7149e000, 0x7209e000,
  0x7229e000, 0x72e9e000, 0x7389e000, 0x1ce9e000, 0x1d69e000, 0x5e29e000, 0x5e89e000, 0x5ec9e000,
  0x280c2a000, 0x4e15000, 0x240b000, 0x45208000, 0x1e3777000, 0x3ee08000, 0x32a08000, 0x37408000,
  0x42408000, 0x48608000, 0x4ea08000, 0x3bc08000, 0x4b808000, 0x51a08000, 0x35a08000, 0x39608000,
  0x41008000, 0x47008000, 0x4a408000, 0x4d608000, 0x50808000, 0x53808000, 0x3de08000, 0x44408000,
  0xd609e000, 0x8a853000]

private def shiftRowsBlock16 : Array Nat := #[
  0x8aa97000, 0x8ac97000, 0x1dbc68000, 0x20e19000, 0x2c0b000, 0x300b000, 0x29ac2e000, 0x7b02c000,
  0x29ae2e000, 0x29b42e000, 0x8564b000, 0x85c8d000, 0xd669e000, 0xd8c9e000, 0xd809e000, 0x88a53000,
  0xd2a6c000, 0x84097000, 0x84297000, 0x1d1868000, 0x20a19000, 0x292c2e000, 0x7a42c000, 0x29482e000,
  0x294e2e000, 0x81a4b000, 0x8208d000, 0x11066c000, 0x21329e000, 0x214e9e000, 0x21509e000,
  0x21629e000, 0x36008000, 0x15069e000, 0x15049e000, 0x14d69e000, 0x14da9e000, 0x217777000,
  0x7ca53000, 0x28242e000, 0x7982c000, 0x7e897000, 0x7ea97000, 0x7da4b000, 0x7e68d000, 0x8ae53000,
  0x29922e000, 0x8a497000, 0x8a697000, 0x7aa2c000, 0x8384b000, 0x83e8d000, 0x8b253000, 0x82297000,
  0x82497000, 0x78e27000, 0x29bc2e000, 0x77427000, 0x7b62c000, 0x8704b000, 0x8768d000, 0x8b053000,
  0x8c097000, 0x8c297000, 0x1b7401000, 0x7d227000, 0x380b000, 0x89897000, 0x89a97000, 0x8b64b000,
  0x8be8d000, 0x75e27000, 0x3a0b000, 0x8904b000, 0x8968d000, 0x3f40c000, 0x3f50c000, 0x32c1d000,
  0x35408000, 0x81827000, 0x2a242e000, 0x3320c000, 0x28832000, 0x28a32000, 0x39208000, 0x2980c000,
  0x7d608000, 0x1b8c01000, 0x3330c000, 0x1b6b0c000, 0x23dc0d000, 0x7e30c000, 0x22620c000,
  0x2990c000, 0x1d7c01000, 0x22630c000, 0x40c08000, 0x2b082e000, 0x235208000, 0x7be8e000,
  0x1d3e01000, 0x1e6c09000, 0x2a9608000, 0x12710c000, 0x10a10c000, 0x35608000, 0x22d0c000,
  0x2010c000, 0x1ea009000, 0x23c009000, 0x1bb0c000, 0x7e20c000, 0x23df0c000, 0x1af70c000,
  0x19f10c000, 0x75d0c000, 0x15af0c000, 0x37a0c000, 0x37b0c000, 0x1dc801000, 0x6e15000, 0x2410c000,
  0x27a19000, 0x19019000, 0x23420f000, 0x221c0c000, 0x1d300b000, 0x26419000]

private def shiftRowsBlock17 : Array Nat := #[
  0xb860b000, 0x156a0b000, 0x10d80b000, 0x2b019000, 0xb960b000, 0x21019000, 0x239601000, 0xb9c0b000,
  0xb900b000, 0x19819000, 0xba20b000, 0x19619000, 0x157c0b000, 0x21219000, 0x273401000, 0x2a3c6b000,
  0x2a4e2f000, 0x1b5c01000, 0x27e601000, 0x28432000, 0x2a540a000, 0x19c001000, 0x27f231000,
  0x2a5e09000, 0x109a70000, 0x35208000, 0x280601000, 0xa3c1b000, 0x280a1f000, 0x28c32000,
  0x109a6f000, 0x10bc6a000, 0x16ce6d000, 0x223434000, 0x17e201000, 0x16b287000, 0x2a802e000,
  0x76032000, 0x231a01000, 0x2a5201000, 0x19ca01000, 0x2a8e2f000, 0x283408000, 0x283601000,
  0x238a0d000, 0x1e7001000, 0x19d201000, 0x7e008000, 0x2a9401000, 0x2a9a0d000, 0x239209000,
  0x1ae01000, 0x1b001000, 0x36208000, 0x23027000, 0x25c1a000, 0xa461b000, 0x2aa679000, 0x224a34000,
  0x16e22d000, 0x7e432000, 0x169001000, 0x169601000, 0x76232000, 0x225a0d000, 0xa4c1b000,
  0x9be01000, 0x2aac01000, 0xa4e2d000, 0x19e401000, 0x1ea201000, 0x2a9c8c000, 0x23c209000,
  0x23c619000, 0x1427000, 0x2681a000, 0x1af42d000, 0x16342c000, 0x7f232000, 0x7f432000, 0x7f827000,
  0xa502d000, 0x1827000, 0x7641b000, 0x7661b000, 0x521b000, 0x26c1a000, 0x1af82d000, 0x16582d000,
  0x165a2d000, 0x165c2d000, 0x165e2d000, 0x16602d000, 0x16622d000, 0x16642d000, 0x16662d000,
  0x16682d000, 0x166a2d000, 0x80432000, 0x240a1b000, 0x7681b000, 0x581b000, 0x5a1b000, 0x28ea1b000,
  0x80827000, 0x1b042d000, 0x166c2d000, 0x166e2d000, 0x16702d000, 0x16722d000, 0x16742d000,
  0x16762d000, 0x16782d000, 0x167a2d000, 0x167c2d000, 0x167e2d000, 0x76c1b000, 0x7701b000,
  0x7721b000, 0x5e1b000, 0x3761d000, 0x2a632000, 0xcf470000, 0x7761b000, 0x2a832000, 0x2aa32000,
  0x2ac32000, 0xcf46f000]

private def shiftRowsBlock18 : Array Nat := #[
  0xe3c6a000, 0xf2a6d000, 0xf3401000, 0xe3e87000, 0x77832000, 0x64401000, 0x64601000, 0x77a1b000,
  0xf822d000, 0x81e32000, 0xf8801000, 0xf8e01000, 0x77c32000, 0x15b61b000, 0x152201000, 0x95c2d000,
  0x82632000, 0x82832000, 0x95e2d000, 0xfda2d000, 0xfdc2d000, 0xfde2d000, 0xfe02d000, 0xfe22d000,
  0xfe42d000, 0xfe62d000, 0xfe82d000, 0xfea2d000, 0xfec2d000, 0x82a32000, 0xff62d000, 0xff82d000,
  0xffa2d000, 0xffc2d000, 0xffe2d000, 0x10002d000, 0x10022d000, 0x10042d000, 0x10062d000,
  0x10082d000, 0x97e1b000, 0x12bc6a000, 0x190a6d000, 0x191401000, 0x18be87000, 0x77e32000,
  0xd5601000, 0xd5801000, 0x9801b000, 0x19262d000, 0x83c32000, 0x181401000, 0x181a01000, 0x78032000,
  0x84432000, 0x84632000, 0x17282d000, 0x172a2d000, 0x172c2d000, 0x172e2d000, 0x17302d000,
  0x17322d000, 0x17342d000, 0x17362d000, 0x17382d000, 0x173a2d000, 0x84832000, 0x173c2d000,
  0x173e2d000, 0x17402d000, 0x17422d000, 0x17442d000, 0x17462d000, 0x17482d000, 0x174a2d000,
  0x174c2d000, 0x174e2d000, 0x6481b000, 0x11ce6a000, 0xc306d000, 0xc3a01000, 0xbda87000, 0x78232000,
  0xd6201000, 0xd6401000, 0x64a1b000, 0xc542d000, 0x85a32000, 0xc5a01000, 0xc6001000, 0x78432000,
  0x85e32000, 0x86032000, 0xca22d000, 0xca42d000, 0xca62d000, 0xca82d000, 0xcaa2d000, 0xcac2d000,
  0xcae2d000, 0xcb02d000, 0xcb22d000, 0xcb42d000, 0x86232000, 0xcbe2d000, 0xcc02d000, 0xcc22d000,
  0xcc42d000, 0xcc62d000, 0xcc82d000, 0xcca2d000, 0xccc2d000, 0xcce2d000, 0xcd02d000, 0x149c6a000,
  0x1a766d000, 0x1a8001000, 0x19a887000, 0x78632000, 0x1cac01000, 0x1cae01000, 0x1a922d000,
  0x87432000, 0x217201000, 0x217401000, 0x78832000, 0x87832000, 0x87a32000]

private def shiftRowsBlock19 : Array Nat := #[
  0x18462d000, 0x18482d000, 0x184a2d000, 0x184c2d000, 0x184e2d000, 0x18502d000, 0x18522d000,
  0x18542d000, 0x18562d000, 0x18582d000, 0x87c32000, 0x185a2d000, 0x185c2d000, 0x185e2d000,
  0x18602d000, 0x18622d000, 0x18642d000, 0x18662d000, 0x18682d000, 0x186a2d000, 0x186c2d000,
  0x196801000, 0x196e01000, 0x2b166b000, 0x1cb601000, 0x291201000, 0x1ad601000, 0x291e01000,
  0x2b2c2e000, 0x78a32000, 0x1adc01000, 0x293601000, 0x1ae001000, 0x89432000, 0x78c32000,
  0x1ae401000, 0x89c32000, 0x89e32000, 0x721b000, 0x8a032000, 0x781b000, 0x7a1b000, 0x7e1b000,
  0x3f01d000, 0x2c432000, 0x2c632000, 0x2c832000, 0x2ca32000, 0x2b6a6b000, 0x2b802e000, 0x4541d000,
  0x2dc32000, 0x2de32000, 0x2e032000, 0x2e232000, 0x2bb66b000, 0x2bcc2e000, 0x4881d000, 0x2e832000,
  0x2ea32000, 0x2ec32000, 0x2ee32000, 0x2c006b000, 0x2c142e000, 0x4ba1d000, 0x2f432000, 0x2f632000,
  0x2f832000, 0x2fa32000, 0x2c4a2e000, 0x4ec1d000, 0x30032000, 0x30232000, 0x30432000, 0x30632000,
  0x51c1d000, 0x30c32000, 0x30e32000, 0x31032000, 0x31232000, 0x3be1d000, 0x2c5a2f000, 0x2b632000,
  0x2c5c0a000, 0x2b832000, 0x2ba32000, 0x2bc32000, 0x22e634000, 0x1e1c01000, 0x79032000,
  0x27b201000, 0x2c642f000, 0x29dc08000, 0x8ba08000, 0x8bc32000, 0x79232000, 0x2701a000, 0x8c432000,
  0x8c632000, 0x8ca27000, 0x2741a000, 0x8cc32000, 0x4261d000, 0x2d032000, 0x2d232000, 0x2d432000,
  0x2d632000, 0x22ec34000, 0x22f034000, 0x22f434000, 0x29fc31000, 0x22fa34000, 0x1d1001000,
  0x2cea01000, 0x21ec01000, 0x2621a000, 0x2cf801000, 0x21f201000, 0x230834000]

/-- Row `i` holds its parent in the low 12 bits, then entries of 22 bits: terminal (8), twice the
target state plus the repetition flag (14). Row 0 is empty; an entry of value 0 erases the one of
the parent. -/
def shiftRows : Array (Array Nat) := #[
  shiftRowsBlock0, shiftRowsBlock1, shiftRowsBlock2, shiftRowsBlock3, shiftRowsBlock4,
  shiftRowsBlock5, shiftRowsBlock6, shiftRowsBlock7, shiftRowsBlock8, shiftRowsBlock9,
  shiftRowsBlock10, shiftRowsBlock11, shiftRowsBlock12, shiftRowsBlock13, shiftRowsBlock14,
  shiftRowsBlock15, shiftRowsBlock16, shiftRowsBlock17, shiftRowsBlock18, shiftRowsBlock19]

end TypeScriptRepl.Grammar
