/-! Goto rows of the parse automaton, written as differences from a parent row. -/
namespace TypeScriptRepl.Grammar

private def gotoRowsBlock0 : Array Nat := #[
  0x0, 0x8ecb4a37ed1755b41e66cf8f833a26ecd8df332248cb8d9b29dc4c888431e20ec678b316370c4000,
  0x2372c38c930a322c1751b02222bf8e52fa38cbd7472f0022bb8932ca868b1a1e2c27c8af1b0ab031cab001,
  0x2ab0aaab92916ee9b897269e66967b5a25ed6887b5a1ded68656220956281195a0068e7e1959f63b67c002,
  0x6567b7571e8656790691dc656761959d465674a8c1ce334714209bd0826e4209b50826c28d9ac6566a003,
  0xa7e67a23199b4a646d298e31e628c8186320608c797dd1a5c42d96ca365a266164a2c5831095d07e56004,
  0x107e5577115107e5342114a7c6514209410824f4209390824d8c8132a284ba2e129082495ae12108247005,
  0xa7e4629f915082443a990d07e42a860fd07e3e1958f507e3c1958ed07e3aa048e46563841f8deca636006,
  0x2a283541f8d231e33a8a0c507e304208bcde22e3a90b4a7e2c1a00ac6022a7518a5d462819e89c65426007,
  0x6542519509065423195088654211950806541f1950786541d1950700461b1950686541919506065417008,
  0x6aa1619505465613195848654110088427fa0faa7836a9e0c9fc02c654096d18206540788501065402009,
  0x8f6b4a3b4d175ab42740ce0003363a8cc89832e3a4ca749b2223ac700a,
  0x2238c688fb16724c49eb30dd60c08892fe3c4be8efaf4026bb0002ca874b19c52c2114acacf2a8000a400b,
  0x1a509b901a69f0c897c3221f0c877c32186a87e9ce9f1f027a56c9ae88e6606d16d5b25a52d164d085700c,
  0x1d2654a160e46b22b0000a9d60297580a00002701986c000160098427fc0f0000340000ca0c82e28e0400d,
  0x9ce34a72cd175bb421b0cf8f8b3a72acc00032e720ca77132228cc700e,
  0x228ac69bd316374c400030e704c1000302244bf0002f8000bd00baee8b0b10002c06c0acae22a99369b00f,
  0x9a86c259f62897d8221f5e877d721a0ee7e0001f00007a0001ae8c4669c09867026044696ea865a010,
  0x1d3e5934a15ddc4549c093239e4aa1f8e6398360000ac000290000a004a1b00b84283a0fa4682c00004011,
  0x9d9349dced07a633e408ce9d5b32750ca74f3222a6c7000,
  0x22a4c68cc31270ec39c6b0a35ac18a42fe2e2bc5b02e96c4b95b12e16c0b75b12d96c4b5a812bd6c4ac013,
  0x3e8ab5b12a96c4a95b12a16c4a75b1a996c4a55b128d6c4a25b12856c49a5b12656c0985b125de9896014,
  0x16c2955b0252378938de24a378918de2423788f74ea396b08b66da29f6a897da221f66877d921a1087e015,
  0x16ac7a19b1e4ce677a8c1ce334713399bcce66e3399b4ce66c2b919e8c6667a397e20a5e87a97062a5b016,
  0x2b305a772164a2c583cf15cce456339155d3c5433914d0c252339940ce64f339938ce64d9c31322f64b017,
  0x23d44a3399257604833991cae4462b9114ce6442fa10cce442b1e0fcce43e3390f0ce43aa210e4ce437018,
  0x2a46368bd8d4ce4348ca8ca2f6313390c0ce62f2f18b92022d29d0b006a1b06a85683c0fa4d02dcf208019,
  0x9dd349dd6d086033e742ce01a,
  0x276ecc000328000c88adb1e2b4c68cbb0e358c28d7306292bf860259f6c897db221f6c877db2180007e01b,
  0x20e07900019911e5b0001680005943315c000548cb1323ea4aa270e508a2d00006c74615a1003e21a0b01c,
  0x278cd201d,
  0x1df0d086db3c000ce9dfb322c6c78b131a70ec38d7b0a71ec10002fe1b6969d4a4e752929d4a467529001e,
  0x27528f7fe225ff6887fd21dff2860001e53d05b44115e70c4c8fc12a8aa394808b4d9415a2283e2400b01f,
  0xd2000345df2d086eb3c000ce9e4330000ca0003222d6c7012,
  0x22d4c6000314000c49c730a74ec10002fc01ebb0002c46f8acaf52a901e9b86ea5a000897ffa21ffc87021,
  0x1ffa86000208000810001f80006600019000063000188000610001800005f1bd96c0005a0001656b657022,
  0x5441f9480004ca8692e4004aa2d8e673636a868d400033a868c40001b0078400000f00002ea1601023,
  0x77eb40000cf8953322e0c78b7b18000c2000304012bb024,
  0x2112acb072a8cd69b00025a0808981fa2207c8781ea181c45b63095e40e4aa2e8e40003600484000001025,
  0x77f340000cc026,
  0xc7000318016bb84e2b2c6aaa5bba6e08889821a2208487820a186385b66b15e4104aa308e401610027,
  0x1e04d0006aec000acb3eaa9daa9c76aa35daa89000220000870002191525b5ad15e41e4aa350e401a10028,
  0x1e06d0028,
  0x20bb0002b0000aa76c2700009b76c235db089000220000870002193dc5b3ce15e4284aa360e40201002a,
  0x1e0ed0028,
  0x22bb0002b0000aa8372700009b8372360dc89000220000870002187265b63015e4364aa380e40221002c,
  0x1e10d0028,
  0x2abb0002b0000aa83d2700009b83d2360f48900022000087000218cfe5b30f95e4424aa488e402a1002e, 0xd0028,
  0x26bb0002b0000aa9fba700009b9fba367ee89000220000870002191905b66a95e4484aa508e402610030, 0xd0028,
  0x2ebb0002b0000aaa0ba700009ba0ba3682e8900022000087000218d325b27e95e44a4aa558e402e10032,
  0x340032bb0002b0000aa00026de56890002200008700021a1225b44595deac4aa560e403210028,
  0x34003cbb0002b0000aa00026de568900022000087000218d365b56e15e3604aa580e403c10028,
  0x340036bb0002b0000aa00026dee4890002200008700021a1365b34b95e3f64aa5a8e403610028,
  0xd2000340000cf000330000c7000318000c400030c000c2000304208bc020,
  0x2818af0dbaac0009600024c000920002440009000023e2308e5aba29ee68900022000087000219b5285037,
  0x2328848ca20c25482089a04a80676d417de3e5e7991711a25b00015d1da52ada1440004c78f12e3f84a038,
  0x1756482a0118a80458ca102b043fa5b0e5e3c350000c9e3c313978b4ac62c3578540000f00002dcd408039,
  0x1ee88985216ea2c518fe92a970393798b61701503a, 0x8aaa39f188935216e4224aa5e0e684a1503a, 0xd0028,
  0x1e12bc0002ec000ac0002a80009b7c7a240008800021c000864a51de15e5b00015e42a4aa5e8e6a2e1003d,
  0x340000bb0002b0000aa00026df2089000220000870002191b65b00015e42c4aa650e466e10028,
  0x340000bb0002b0000aa00026df2289000220000870002191c45b00015e42e4aa698e467410028, 0xd0028,
  0xbb0002b0000aa00026df24890002200008700021aa76730001c50b45b00015e4304a0000e462010041,
  0x1132ae024890001cc0007127f19e1205b03a,
  0x10c252000145d144b95c12976a4827f1189fc45b228fc000397450d5d14315288b49962ca25855b7608043,
  0x22968e80aa24d345b95e12a89a15044, 0x22aa8e80d22519a5b96292a8ca15044,
  0x22ba8e8132261345b96f12a8ce15044, 0x22ca8e814a251a05b97112a8e215044, 0xd0028,
  0xbb0002b0000aa00026df2a8900022000087000218000730001c41b25b00015e4384a0000e467c10049, 0xd0028,
  0xbb0002b0000aa00026df2c8900022000087000218000730001c50f85b00015e43a4a0000e467e1004b, 0xd0028,
  0xbb0002b0000aa00026df2e8900022000087000218000730001c51185b00015e43c4a0000e46ae1004d, 0xd0028,
  0xbb0002b0000aa00026df3c8900022000087000218000730001c46285b00015e4524a0000e46e01004f, 0xd0028,
  0xbb0002b0000aa00026df3e8900022000087000218000730001c511c5b00015e4544a0000e470e10051, 0xd0028,
  0xbb0002b0000aa00026df408900022000087000218000730001c53ce5b00015e4564a0000e472810053, 0xd0028,
  0xbb0002b0000aa00026df848900022000087000218000730001c41bc5b00015e4904a0000e472a10055, 0xd0028,
  0xbb0002b0000aa00026df8a8900022000087000218000730001c46f45b00015e4984a0000e472c10057, 0xd0028,
  0xbb0002b0000aa00026df8c8900022000087000218000730001c41c25b00015e49a4a0000e473c10059, 0xd0028,
  0xbb0002b0000aa00026df928900022000087000218000730001c51485b00015e4a24a0000e473e1005b, 0xd0028,
  0xbb0002b0000aa00026df9c8900022000087000218000730001c46305b00015e4b44a0000e47401005d, 0xd0028,
  0xbb0002b0000aa00026df9e8900022000087000218000730001c46365b00015e4b64a0000e47421005f,
  0xd0784af0000bb028,
  0xac0002a80009b7e82240008800021c000864a51dc000730001c514a5b00015e4b84a0000e466e10061,
  0xd0784af0000bb028,
  0xac0002a80009b7e8a240008800021c000864a51dc000730001c51505b00015e4ba4a0000e467410063,
  0xd0784af0000bb028,
  0xac0002a80009b7ea2240008800021c000864a51dc000730001c53da5b00015e4c24a0000e67aa10065,
  0xd0784af0000bb028,
  0xac0002a80009b7eaa240008800021c000864a51dc000730001c53de5b00015e4c44a0000e467c10067,
  0xd0784af0000bb028,
  0xac0002a80009b7ef2240008800021c000864a51dc000730001c47165b00015e4e44a0000e467e10069,
  0xd0784af0000bb028,
  0xac0002a80009b7f0a240008800021c000864a51dc000730001c41c85b00015e4ec4a0000e46ae1006b,
  0xd0784af0000bb028,
  0xac0002a80009b7f12240008800021c000864a51dc000730001c47245b00015e4ee4a0000e46e01006d,
  0xd0784af0000bb028,
  0xac0002a80009b7f1a240008800021c000864a51dc000730001c463c5b00015e4f04a0000e470e1006f,
  0xd0784af0000bb028,
  0xac0002a80009b7f22240008800021c000864a51dc000730001c516e5b00015e4f24a0000e472810071,
  0xd0784af0000bb028,
  0xac0002a80009b7f3a240008800021c000864a51dc000730001c53e85b00015e4fa4a0000e472a10073,
  0xd0784af0000bb028,
  0xac0002a80009b7f42240008800021c000864a51dc000730001c473a5b00015e4fc4a0000e472c10075,
  0xd0784af0000bb028,
  0xac0002a80009b8012240008800021c000864a51dc000730001c4cfc5b00015e5264a0000e473c10077,
  0xd0784af0000bb028,
  0xac0002a80009b803a240008800021c000864a51dc000730001c518e5b00015e5464a0000e473e10079,
  0xd0784af0000bb028,
  0xac0002a80009b8072240008800021c000864a51dc000730001c4d1c5b00015e5664a0000e47401007b,
  0xd0784af0000bb028,
  0xac0002a80009b808a240008800021c000864a51dc000730001c4d305b00015e56e4a0000e47421007d,
  0x8b8af18f8ba63f2e58fcb863e2dd8fcb663f2d69d8af63f2b03e8ab044]

private def gotoRowsBlock1 : Array Nat := #[
  0x18fcaa63f2a58fca863f29d8fea663f2958fca363f2898fca163f2698fc9963e2618fc9763ea558f89407f,
  0x199a8e63b22d8068a8152240008500021000083000208000816021e8ae4678e697a17e5c34f96d03452080,
  0x22f64b971929760482b9118ae445000102c783fb218da2f635a118ca2f63149f8b4a742ca39855ce608081,
  0x22e2bc5f823a05a890002140008400020c00082000205e585e85116e5ce4a0001028ec15044,
  0x3e8ab894261e96958dea3a0648929d19c0005f083,
  0x5e85196d1da52aa1146d004b9781297604829d118a7445b1e0fed0035b400c50c42d29d0b28f015084, 0x2204bc083,
  0x31cab770a3a096894209dd0826f4209b90826d4209b0a7e6700017c0005e35016d07e5641f95507e53086,
  0xf1e524209410824f4209390824da8692e62e4a4209256b84842091ca7e4629f915082443a990d07e42087,
  0x2a183f41f8f907e3c41f8e907e37a868d507e34a868c507e304208bcde22e37e8b4a7e2ca3d055cbc08088,
  0x1e948e82c224b546700017c0005e35196d4085274292e6784a2d5118b54457428d5d0a31a3e055cda08083,
  0x3e8ab7a523a22689083,
  0xa866700017c0005e85496de4e4ba02129760482a1918a8645b1e0fde4e357938c509e2d29d0b28fc1508b,
  0x36eab77aa39eea892b199c0005f083,
  0x5e46a16cd5452b1e92e3fc4a5d5920ac6462b1916b043fb1e8d6c7a313d10b4ac62ca40055cd40808d, 0x2204bc083,
  0x3b6ab770a39f12894209dd0826f4209b90826d4209b0af66700017c0005e85716d07e5641f95507e5308f,
  0x12da524209410824f4209390824db3512e41a4a4209257844842091caf6462bd915082443a990d07e42090,
  0x2cd23f41f8f907e3c41f8e907e37b350d507e34b350c507e304208bcde22e4840b4af62ca40855cde08091,
  0xfa2addea8e7c6a24a7467083,
  0x5f00017a1605b35514ad004b9091297604829d118a7445b1e0fed0035b400c4daa2d29d0b14b615093, 0x1dea8e083,
  0x1f268926599c0005f000178d4c5b47414ab064b90c92899646265916b0635ac18c541c2d52e055cda08095,
  0x4b2ab77aa39f28892d719c0005f083,
  0x5e85b16d1d052b4592e4344a5df920b5c462d7116caa3fb458d6d16314c00b4b5c2c52e855cda08097,
  0x4e4ab77aa39f30892d799c0005f083,
  0x5e46d16d1d052b4692e43e4a5e0120b5e462d7916cb83fb468d6d1a314cd0b4b5e2c52f055ce208099, 0x2204bc083,
  0x41eab770a39f32894209dd0826f4209b90826d4209b0ab06700017c0005e46f16d07e5641f95507e5309b,
  0xf1e524209410824f4209390824db4192e4404a4209257864842091cab0462ac115082443a990d07e4209c,
  0x2d043f41f8f907e3c41f8e907e37b418d507e34b418c507e304208bcde22e39c8b4ab02c52f855cbc0809d,
  0x1202addea8e7cd224ae667083,
  0x5f0001791c25b35514ad124b911129774482b9918ae645b268fed1235b448c504c2d2b98b14c01509f,
  0x514ab77aa39f36892d899c0005f083,
  0x5e47216d1d052b4712e4464a5e0920b62462d8916cc43fb470d6d1c314e00b4b622c530855cda080a1,
  0x9bc31636ec38d5b0a354c178e2f16c0ba5b12e56c4b85b02dd6c4b6000,
  0x16c4b5a80abd6c4ac2faaad6c4aa5b12a56c4a85b129d6c6a65b12956c4a35b12896c4a15b12696c4990a3,
  0x16c0985b125d6c2955b0252378938de24a378918de2423788f74ea396b08b66da2aa7089195a006567d0a4,
  0x6567b5ab1e8656791969dc656761959d4656741959aa81a5fb39170a2c5833b15d6bc526d392e716410a5,
  0x6563d1958ec65638a918d9b4e356d38c6842300108b22081419584c656129e98206580787f0127cc030a6,
  0x8eeb0e718c19c9a4e726929c9a46726909c9a3eb24890000c00442c0a7,
  0x9c8b0e1e8bc9d4a4e752929d4a46752909d4a3eb7889834a020d27d8349ee0d2798359de0d2760a8,
  0x20d2758349d20d26a67712e0d23d8348ee0d2386770d59dc319f48b20d21383484a0d4078a00129d2030a9,
  0x273ec38d530676a939daa4a76a919daa4276a8faf1225b4e4b6d38d5b4e310120b2286140aa, 0x314000c30a7,
  0xbecab9dea4e77a929dea4677a909dea3c0008934095ccf0530000c06242c88185066407000010000030ac,
  0x9c6304ebcaba2d24e8b492a2d2468b490a2d23d0ba5742514e340410188b23a0140ad,
  0x78ab16766c3000308000c19f8abd790aa5ba26c00093000248000910a7,
  0x9000023d7e88e5ba2316ae8a0002240005fa921700003001a0b2284148ce02069007000010000030af,
  0x341e48bc0002ec000ac028,
  0x3b6ab0002a80009b7d0a240008800021c000860001cc000712bd99c0005b00015c00051b3512e4584a0b1,
  0x1784482bd918af645b348fc00039b350d6cd43149a8b4af62c0000980002500009000023000088000210b2,
  0x2000007c0001e0000740001c0000680001900006000017531054000110000400000919a81c000020b3,
  0x341e48bc0002ec000ac028,
  0x3b6ab0002a80009b7d2a240008800021c000860001cc000712bd99c0005b00015c00051b3512e4624a0b5,
  0x1784482bd918af645b348fc00039b350d6cd4314a18b4af62c0000980002500009000023000088000210b6,
  0x2000007c0001e0000740001c000068000190000600001753185400011000040000091b181c000020b7,
  0xd086faf0000bb0002b03b6ab028,
  0xaa00026df768900022000087000219294770001cc000712bd99c0005b00015c00051b3512e4744a0b9,
  0x1784482bd918af645b348fc00039b350d6cd4314a18b4af62c0000980002500009000023000088000210ba,
  0x2000007c0001e0000740001c000068000190000600001753205400011000040000091b181c000020bb,
  0xd086faf0000bb0002b03b6ab028,
  0xaa00026df7c8900022000087000219294770001cc000712bd99c0005b00015c00051b3512e4804a0bd,
  0x1784482bd918af645b348fc00039b350d6cd43149a8b4af62c0000980002500009000023000088000210be,
  0x2000007c0001e0000740001c0000680001900006000017532854000110000400000919a81c000020bf,
  0x8782f27c8af0edaadf8089834a020d27d8349ee0d2794ae1de0d2768349d60d2744209bd0826e000,
  0x10826d4209b20d26a2bd99dd1a5c28b16107e5641f95507e5341f9490825042093d0824e420936cd44b0c1,
  0x24864a4209257844842091caf6462bd915082443a990d07e42b348fd07e3e8348f507e3c8348ed07e3a0c2,
  0x20d23841f8decd43541f8d2cd43141f8c10822f3788b92e82d2bd8b14cc1583484e0d2126d1822118070c3,
  0x1f82899221292e62d5338560de070c4, 0x2212c50aa,
  0xc3000308000c19f8abceb0ab5e42aa82c9b00024c000920002440009000023d9cc8ea0aa3198c8b0c6,
  0x18728a0002240005fa921710905767692e340416768d59da310190b2206148ce0220d807000010000030c7, 0xc50c8,
  0x2776c32faaad7009b5fca397008c5ac22d6ae8a33b15e3c84b9c59063c8358f20c40002c0000520f6070c9,
  0x2e8000b90002e0000b70002d8000b59f22bc000ac03b,
  0xaa0002a4000a800029c000a6000294000a3000288000a10002680009900026000097000254000940cb,
  0x8e00022c0008a7e1a240007a0001cc000717469700005b33914a4924a0000e400036534055cb0080cc,
  0x1f8889ada1464944a3978b41b6150cd,
  0x44cab7e3a249fc67000145d144b92712976a4827f1189fc45b228fdd14357450c54a22d2658b062c150cd,
  0x44cab7e4226850840cd,
  0x28508327f19c0005174512e49e4a5da9209fc4627f11685040b228fdd14357450c54a22d2658b01be150d0,
  0x44cab7e5226708840cd,
  0x27088327f19c0005174512e4a44a5da9209fc4627f11670840b228fdd14357450c54a22d2658b0632150d2,
  0x44cab7e5a26748840cd,
  0x27488327f19c0005174512e4a64a5da9209fc4627f11674840b228fdd14357450c54a22d2658b1192150d4,
  0x8cc31232ec38b8af03e8ab7e62240008500021000083000208000812b919e20a5e0cd,
  0x518cb1322f64b92a929760482b9118ae445000102c783f8bd8d632a328bd8c508a2d29d0b2192150d6,
  0x8cc31232ec38b8af03e8ab7e6a240008500021000083000208000812b919e20a5e0cd,
  0x518cb1322f64b92b129760482b9118ae445000102c783f8bd8d632a328bd8c509c2d29d0b119c150d8,
  0x8cc31270ec38b8af03e8ab7e92240008500021000083000208000812b919e20a5e0cd,
  0x519c31322f64b92f129760482b9118ae445000102c783f8bd8d632a328bd8c52022d29d0b219a150da,
  0x2330c48b8af04e4abaa9291fa6890002140008400020c00082000204ae8670cd,
  0x220a5e0001467b84b92f929780482ba118ae845000102cb83f9ee0d632a329ee0c540e2d2d78b11b8150dc,
  0x9c43122e2bc1132adfac890002140008400020c000820002049fc670cd,
  0x22885e000145d144b93192976a4827f1189fc45000102c8a3f7450d670a327450c54a22d2658b11be150de,
  0x8b8af03e8ab7eba240008500021000083000208000812af19c0005f00017aa6e510cd,
  0x23624b932129760482af118abc45000102c783f8d88d63623142a0b4abc2c0958946261509584c256120e0,
  0x8b8af03e8ab7ec2240008500021000083000208000812b919e36c5e0cd,
  0x518da9322f64b933129760482b9118ae445000102c783f8bd8d680e328bd8c52762d29d0b05ca150e2,
  0x8cc3122e2bc1392adfb2890002140008400020c00082000204ae8670cd,
  0x220a5e0001467b84b933929780482ba118ae845000102cb83f9ee0d632a329ee0c53bc2d2d78b10b8150e4,
  0x8cc3122e2bc1132adfb6890002140008400020c000820002049fc670cd,
  0x220a5e000145d144b93712976a4827f1189fc45000102c8a3f7450d632a327450c54a22d2658b068a150e6,
  0x8b8af03e8ab7efa240008500021000083000208000812af19c0005f00017ad28510cd,
  0x23624b939929760482af118abc45000102c783f8d88d63623149a0b4abc2c0980946b01509804c260120e8,
  0x27c2f044cab7f2a240008500021000083096a0822a810cd,
  0x9fc677969780005174512e4f44a5da9209fc4627f11400040b228fdd14357450c54a22d2658b10fc150ea,
  0x8b8af044cab5b22816869f58ea796389d7f322400085000210000830002080008126599c0005f0cd,
  0x5e000146b064b93d92976a4826591899645000102c8a3fac18d6b06315118b49962c440855b88080ec,
  0x2204bc0c72ad6c8a05a1a7d63a9e0c4,
  0x16389d7f4a24000800001f40007b0001e5082770001d8000750001d00006a29f99ea1a4b93f9296b8480ee,
  0xa7e4629f916a183f0000f40003b0000e2a1a35a868c4de42d29f8b11201500004c00012731020000070ef,
  0x8b8af16c8a05a1a7d63a9e58e275fd4890002140008400020c000820cd,
  0x812b199c0005f00017800051b1e92e5004a2b1918ac645000102c7a35b1e8c4ef42d44f855cd6080f1,
  0x8b8af03e8ab5b22816869f58ea796389d7f5a2400085000210000830002080008129d19c0005f0cd,
  0x5e000146d004b9411297604829d118a7445000102c783fb400d6d00313768b4a742c070055b88080f3,
  0x8b8af044cab5b22816869f58ea796389d7f622400085000210000830002080008126599c0005f0cd,
  0x5e000146b064b94192976a4826591899645000102c8a3fac18d6b06315118b49962c18d055cdc080f5,
  0x8b8af03e8ab640a8180c9f5aa2796a69d7f722400085000210000830002080008129d19c0005f0cd,
  0x5e000146d004b9441297604829d118a7445000102c783fb400d6d00313768b4a742c453055ce8080f7,
  0x3b6ab7f8224af667b3512e5164a5e1120af6462bd916cd23fb350d6cd4314920b4af62c453855ce0080f0,
  0x8b8af04b2ab5b22816869f58ea796389d801a240008500021000083000208000812d719c0005f0cd,
  0x5e000146d164b94b92977e482d7118b5c45000102caa3fb458d6d16314d80b4b5c2c071855cdc080fa,
  0x107aae00a892ac19ed064b94f129786482ac118ab045b410fed0635b418c4e9c2d2ac0b063a150f0,
  0x8b8af04e4ab5b22816869f58ea796389d8032240008500021000083000208000812d799c0005f0cd,
  0x5e000146d1a4b94f929780482d7918b5e45000102cb83fb468d6d1a314da0b4b5e2c45b055ce4080fd,
  0x8b8af0480ab5b22816869f58ea796389d8042240008500021000083000208000812b999c0005f0cd]

private def gotoRowsBlock2 : Array Nat := #[
  0x5e000146d124b952129774482b9918ae645000102c9a3fb448d6d123141d0b4ae62c18f855b88080ff,
  0x8b8af0514ab5b22816869f58ea796389d804a240008500021000083000208000812d899c0005f0cd,
  0x5e000146d1c4b952929782482d8918b6245000102cc43fb470d6d1c314ea0b4b622c190055cdc08101,
  0x22e2bc1132ae014890002140008400020c000820002049fc670cd,
  0x236c5e000145d144b95392976a4827f1189fc45000102c8a3f7450d680e327450c54a22d2658b0d0015103,
  0x8b8af044cab805a240008500021000083096208000810cd,
  0x9fc677961780005174512e5504a5da9209fc4627f11400040b228fdd14357450c54a22d2658b20ea15105,
  0x22e2bc0fa2ae018890002140008400020c00082000204ae4670cd,
  0x239a5e0001462f64b956129760482b9118ae445000102c783f8bd8d6846328bd8c527e2d29d0b0d2015107,
  0x8b8af044cab806a240008500021000083097a08000810cd,
  0x9fc677a01780005174512e55a4a5da9209fc4627f11400040b228fdd14357450c54a22d2658b0d2615109,
  0x22e2bc1132ae01e890002140008400020c000820002049fc670cd,
  0x239a5e000145d144b95a12976a4827f1189fc45000102c8a3f7450d6846327450c54a22d2658b0d381510b,
  0x2356c28d530444cab0002800009f0f0,
  0x9e000276020893399dcce66f3399b8ce66d3399b0a6267339940ce64f339938ce64dac192e56a4a10d,
  0xce6495da920ce647298918a62453399114de43ac18d6b06313398bcce02e5178b4a622c34f055b460810e,
  0x9c63060268995c92919e1510f, 0x8b8af044cab80a2240008500021000083000208000810cd,
  0x9fc6779f1780005174512e5744a5da9209fc4627f11400040b228fdd14357450c54a22d2658b0d4215111,
  0x8b8af044cab80b2240008500021000083000208000810cd,
  0x9fc6779f9780005174512e57a4a5da9209fc4627f11400040b228fdd14357450c54a22d2658b0d4415113,
  0x8b8af044cab80ba240008500021000083000208000810cd,
  0x9fc677ab9780005174512e57c4a5da9209fc4627f11400040b228fdd14357450c54a22d2658b11a615115,
  0x8b8af044cab80c2240008500021000083000208000810cd,
  0x9fc677ac1780005174512e5804a5da9209fc4627f11400040b228fdd14357450c54a22d2658b0d4a15117,
  0x8b8af044cab80ca240008500021000083000208000810cd,
  0x9fc677ad1780005174512e5824a5da9209fc4627f11400040b228fdd14357450c54a22d2658b11c015119,
  0x8b8af044cab80da240008500021000083000208000810cd,
  0x9fc677b49780005174512e58c4a5da9209fc4627f11400040b228fdd14357450c54a22d2658b11c61511b,
  0x2384c38b8af2038890002140008400020c000820cd,
  0x812b199c0005f000178000518e0932c7a4b963928ac6462b191400040b1e8d6c7a314328b619c1511d,
  0x2732c38b8af203a890002140008400020c000820cd,
  0x812b199c0005f000178000519cc132c7a4b964928ac6462b191400040b1e8d6c7a314848b61a21511f,
  0x275ac38b8af203c890002140008400020c000820cd,
  0x812b199c0005f000178000519d6132c7a4b965128ac6462b191400040b1e8d6c7a3148f8b400015121,
  0x2772c38b8af203e890002140008400020c000820cd,
  0x812b199c0005f000178000519dc132c7a4b968128ac6462b191400040b1e8d6c7a314900b400015123,
  0x2782c38b8af2044890002140008400020c000820cd,
  0x812b199c0005f000178000519e0132c7a4b96b128ac6462b191400040b1e8d6c7a314908b400015125,
  0x2794c38b8af2048890002140008400020c000820cd,
  0x812b199c0005f000178000519e4932c7a4b96c928ac6462b191400040b1e8d6c7a314910b400015127,
  0x279ac38b8af204a890002140008400020c000820cd,
  0x812b199c0005f000178000519e6132c7a4b96d128ac6462b191400040b1e8d6c7a314918b400015129,
  0x8b8af03e8ab813a2400085000210000830002080008129d19c0005f0cd,
  0x5eaa8946d004b96f9297604829d118a7445000102c783fb400d6d00314390b4a742c0998940001512b,
  0x8b8af044cab8142240008500021000083000208000810cd,
  0x9fc677a09780005174512e5c04a5da9209fc4627f11400040b228fdd14357450c54a22d2658b00001512d,
  0x8b8af03e8ab815a2400085000210000830002080008129d19c0005f0cd,
  0x5eaaf146d004b9721297604829d118a7445000102c783fb400d6d003144b0b4a742c09a8940001512f,
  0x8b8af044cab8162240008500021000083000208000810cd,
  0x9fc677ac9780005174512e5ca4a5da9209fc4627f11400040b228fdd14357450c54a22d2658b000015131,
  0x8b8af03e8ab81722400085000210000830002080008129d19c0005f0cd,
  0x5eb3c946d004b9741297604829d118a7445000102c783fb400d6d00314988b4a742c09b89400015133,
  0x8b8af03e8ab817a2400085000210000830002080008129d19c0005f0cd,
  0x5eb3f146d004b9749297604829d118a7445000102c783fb400d6d00314990b4a742c09c89400015135,
  0x8b8af03e8ab81822400085000210000830002080008129d19c0005f0cd,
  0x5e00014636a4cb4012e5d64a5d8120a744629d11400040b1e0fed0035b400c52762d29d0b000015137,
  0x8b8af2062890002140008400020c000820cd,
  0x812b199c0005f000178000518da932c7a4b976128ac6462b191400040b1e8d6c7a314d78b400015139,
  0x2800009f0002780009d819a267da51978928eaa2d000055b46080f0, 0x22e2bc81a22400085000210000830cd,
  0x82000204ac66700017c0005eaae946c7a4b979128ac6462b191400040b1e8d6c7a3144a8b40001513c,
  0x22e2bc81aa2400085000210000830cd,
  0x82000204ac66700017c0005eab7146c7a4b97a128ac6462b191400040b1e8d6c7a314558b40001513e,
  0x22e2bc81b22400085000210000830cd,
  0x82000204ac66700017c0005eab7946c7a4b97a928ac6462b191400040b1e8d6c7a314560b400015140,
  0x22e2bc81ba2400085000210000830cd,
  0x82000204ac66700017c0005eac0146c7a4b97d928ac6462b191400040b1e8d6c7a3145d8b400015142,
  0x22e2bc822a2400085000210000830cd,
  0x82000204ac66700017c0005eb1b146c7a4b981928ac6462b191400040b1e8d6c7a314948b400015144,
  0x22e2bc823a2400085000210000830cd,
  0x82000204ac66700017c0005eb1c146c7a4b984928ac6462b191400040b1e8d6c7a314958b400015146,
  0x22e2bc82422400085000210000830cd,
  0x82000204ac66700017c0005eb1c946c7a4b985128ac6462b191400040b1e8d6c7a314960b400015148,
  0x22e2bc824a2400085000210000830cd,
  0x82000204ac66700017c0005eb1d146c7a4b989128ac6462b191400040b1e8d6c7a314970b40001514a,
  0x8252267dc51989928eac2d13b, 0x2098890001466304a37c0b50981513b, 0x22e2bc826a2400085000210000830cd,
  0x82000204ac66700017c0005eac2946c7a4b98c928ac6462b191400040b1e8d6c7a313960b40001514e,
  0x8b8af0480ab82722400085000210000830002080008188a9c8ae6670cd,
  0x5f00017800051b4492e6364a5dd120ae6462b991400040b268fed1235b448c50b22d2b98b000015150,
  0x22e2bc0fa2ae09e890002140008400020c00082000204a74670cd,
  0x5f00017aa8451b4012e6384a5d8120a744629d11400040b1e0fed0035b400c50c42d29d0b000015152,
  0x20a0890001466404a37e0b50c81513b, 0x22e2bc0fa2ae0a2890002140008400020c00082000204a74670cd,
  0x5f00017aa8c51b4012e6424a5d8120a744629d11400040b1e0fed0035b400c50d02d29d0b000015155,
  0x20a48900014664e4a3850b50d41513b, 0x8b8af04e4abaa92920a6890002140008400020c00082000204b5e670cd,
  0x5f00017800051b4692e6504a5e0120b5e462d791400040b2e0fed1a35b468c540e2d2d78b000015158,
  0x20a8890001466604a3868b50fa1513b, 0x20ac8900014666e4a3870b50fe1513b,
  0x20ae890001466704a3878b51001513b, 0x22e2bc0fa2ae0b2890002140008400020c00082000204a74670cd,
  0x5f00017aaae51b4012e67a4a5d8120a744629d11400040b1e0fed0035b400c51142d29d0b00001515d,
  0x22e2bc0fa2ae0b4890002140008400020c00082000204a74670cd,
  0x5f00017aab451b4012e67c4a5d8120a744629d11400040b1e0fed0035b400c51242d29d0b00001515f,
  0x22e2bc82da2400085000210000830cd,
  0x82000204ac66700017c0005eaad946c7a4b9a0128ac6462b191400040b1e8d6c7a314498b400015161,
  0x22e2bc82e22400085000210000830cd,
  0x82000204ac66700017c0005eaae146c7a4b9a0928ac6462b191400040b1e8d6c7a3144a0b400015163,
  0x8b8af04e4abaafa920ba890002140008400020c00082000204b5e670cd,
  0x5f00017800051b4692e68a4a5e0120b5e462d791400040b2e0fed1a35b468c540e2d2d78b000015165,
  0x8b8af0480ab82f2240008500021000083000208000818f61c8ae6670cd,
  0x5f00017800051b4492e68c4a5dd120ae6462b991400040b268fed1235b448c50b22d2b98b000015167,
  0x22e2bc82fa2400085000210000830cd,
  0x82000204ac66700017c0005eab6946c7a4b9a6128ac6462b191400040b1e8d6c7a314550b400015169,
  0x22e2bc83022400085000210000830cd,
  0x82000204ac66700017c0005eabe946c7a4b9a6928ac6462b191400040b1e8d6c7a3145c0b40001516b,
  0x22e2bc83222400085000210000830cd,
  0x82000204ac66700017c0005eabf146c7a4b9ad128ac6462b191400040b1e8d6c7a3145c8b40001516d,
  0x22e2bc832a2400085000210000830cd,
  0x82000204ac66700017c0005eabf946c7a4b9ad928ac6462b191400040b1e8d6c7a3145d0b40001516f,
  0x22e2bc83322400085000210000830cd,
  0x82000204ac66700017c0005e000146c7a4b9b4928ac6462b191400040b1e8d6c7a313c38b4cf215171,
  0x22e2bc833a2400085000210000830cd,
  0x82000204ac66700017c0005e000146c7a4b9b5128ac6462b191400040b1e8d6c7a313d08b4d0615173,
  0x22e2bc891a2400085000210000830cd,
  0x82000204ac66700017c0005e000146c7a4ba14928ac6462b191400040b1e8d6c7a313d70b4d0e15175,
  0x22e2bc7b0a2400085000210000830cd,
  0x82000204ac66700017c0005e000146c7a4b913128ac6462b191400040b1e8d6c7a313d80b4d1e15177,
  0x22e2bc7be22400085000210000830cd,
  0x82000204ac66700017c0005e000146c7a4b917128ac6462b191400040b1e8d6c7a313d88b4d2215179,
  0x22e2bc7bfa2400085000210000830cd,
  0x82000204ac66700017c0005e000146c7a4b919928ac6462b191400040b1e8d6c7a313d90b4d241517b,
  0xa000027c0009e000275f588991a1292062d426055b46080f9, 0x22e2bcab822400085000210000830cd,
  0x82000204ac66700017c0005eaed146c7a4b91b128ac6462b191400040b1e8d6c7a313988b40001517e]

private def gotoRowsBlock3 : Array Nat := #[
  0x8e72264784a4838b50c81517d, 0x22e2bc0fa2ae8b2890002140008400020c00082000204a74670cd,
  0x5f00017ab3451b4012e47a4a5d8120a744629d11400040b1e0fed0035b400c52162d29d0b000015181,
  0x22647c4a48b0b50d41517d, 0x2264844a48c0b50fa1517d, 0x22648a4a48c8b50fe1517d,
  0x22648c4a48d0b51001517d, 0x22e2bc0fa2ac000890002140008400020c00082000204a74670cd,
  0x5f00017ab3a51b4012e48e4a5d8120a744629d11400040b1e0fed0035b400c523a2d29d0b000015187,
  0x22e2bc0fa2ac000890002140008400020c00082000204a74670cd,
  0x5f00017800051b4012e4964a5d8120a744629d11400040b1e0fed0035b400c4da02d29d0b0cf215189,
  0x22e2bc0fa2ac000890002140008400020c00082000204a74670cd,
  0x5f00017800051b4012e4a04a5d8120a744629d11400040b1e0fed0035b400c4da82d29d0b0d061518b,
  0x22e2bc0fa2ac000890002140008400020c00082000204a74670cd,
  0x5f00017800051b4012e4a84a5d8120a744629d11400040b1e0fed0035b400c4dc22d29d0b0d0e1518d,
  0x22e2bc0fa2ac000890002140008400020c00082000204a74670cd,
  0x5f00017800051b4012e4ae4a5d8120a744629d11400040b1e0fed0035b400c4dc62d29d0b0d1e1518f,
  0x22e2bc0fa2ac000890002140008400020c00082000204a74670cd,
  0x5f00017800051b4012e4b04a5d8120a744629d11400040b1e0fed0035b400c4dc82d29d0b0d2215191,
  0x22e2bc0fa2ac000890002140008400020c00082000204a74670cd,
  0x5f00017800051b4012e4b24a5d8120a744629d11400040b1e0fed0035b400c4dca2d29d0b0d2415193,
  0xa000027c0009e00027400089930128e682d426055b46080fc, 0x24ca4a39c0b50c815195,
  0x24d04a3a28b50d415195, 0x24d24a3a38b50fa15195, 0x24d44a3a40b50fe15195, 0x24d64a3a48b510015195,
  0x22e2bc1132ac000890002140008400020c00082000204996670cd,
  0x5f00017800051ac192e4d84a5da9209964626591400040b228feb0635ac18c54122d2658b0cf21519b,
  0x22e2bc1132ac000890002140008400020c00082000204996670cd,
  0x5f00017800051ac192e4e04a5da9209964626591400040b228feb0635ac18c541a2d2658b0d061519d,
  0x22e2bc1132ac000890002140008400020c00082000204996670cd,
  0x5f00017800051ac192e4ea4a5da9209964626591400040b228feb0635ac18c54342d2658b0d0e1519f,
  0x22e2bc1132ac000890002140008400020c00082000204996670cd,
  0x5f00017800051ac192e4f84a5da9209964626591400040b228feb0635ac18c54382d2658b0d1e151a1,
  0x22e2bc1132ac000890002140008400020c00082000204996670cd,
  0x5f00017800051ac192e5024a5da9209964626591400040b228feb0635ac18c543a2d2658b0d22151a3,
  0x22e2bc1132ac000890002140008400020c00082000204996670cd,
  0x5f00017800051ac192e5084a5da9209964626591400040b228feb0635ac18c543c2d2658b0d24151a5,
  0x22e2bc1202ac000890002140008400020c00082000204ae6670cd,
  0x5f00017800051b4492e50a4a5dd120ae6462b991400040b268fed1235b448c50422d2b98b0cf2151a7,
  0x22e2bc1202ac000890002140008400020c00082000204ae6670cd,
  0x5f00017800051b4492e50c4a5dd120ae6462b991400040b268fed1235b448c504a2d2b98b0d06151a9,
  0x22e2bc1202ac000890002140008400020c00082000204ae6670cd,
  0x5f00017800051b4492e5144a5dd120ae6462b991400040b268fed1235b448c50642d2b98b0d0e151ab,
  0x22e2bc1202ac000890002140008400020c00082000204ae6670cd,
  0x5f00017800051b4492e51a4a5dd120ae6462b991400040b268fed1235b448c50682d2b98b0d1e151ad,
  0x22e2bc1202ac000890002140008400020c00082000204ae6670cd,
  0x5f00017800051b4492e51c4a5dd120ae6462b991400040b268fed1235b448c506a2d2b98b0d22151af,
  0x22e2bc1202ac000890002140008400020c00082000204ae6670cd,
  0x5f00017800051b4492e51e4a5dd120ae6462b991400040b268fed1235b448c506c2d2b98b0d24151b1,
  0x22e2bc12caac000890002140008400020c00082000204b5c670cd,
  0x5f00017800051b4592e5204a5df920b5c462d711400040b2a8fed1635b458c52f62d2d70b0cf2151b3,
  0x22e2bc12caac000890002140008400020c00082000204b5c670cd,
  0x5f00017800051b4592e5244a5df920b5c462d711400040b2a8fed1635b458c52fe2d2d70b0d06151b5,
  0x22e2bc12caac000890002140008400020c00082000204b5c670cd,
  0x5f00017800051b4592e52a4a5df920b5c462d711400040b2a8fed1635b458c53182d2d70b0d0e151b7,
  0x22e2bc12caac000890002140008400020c00082000204b5c670cd,
  0x5f00017800051b4592e52c4a5df920b5c462d711400040b2a8fed1635b458c531c2d2d70b0d1e151b9,
  0x22e2bc12caac000890002140008400020c00082000204b5c670cd,
  0x5f00017800051b4592e5324a5df920b5c462d711400040b2a8fed1635b458c531e2d2d70b0d22151bb,
  0x22e2bc12caac000890002140008400020c00082000204b5c670cd,
  0x5f00017800051b4592e5344a5df920b5c462d711400040b2a8fed1635b458c53202d2d70b0d24151bd,
  0x22e2bc1392ac000890002140008400020c00082000204b5e670cd,
  0x5f00017800051b4692e5364a5e0120b5e462d791400040b2e0fed1a35b468c532a2d2d78b0cf2151bf,
  0x22e2bc1392ac000890002140008400020c00082000204b5e670cd,
  0x5f00017800051b4692e5384a5e0120b5e462d791400040b2e0fed1a35b468c53322d2d78b0d06151c1,
  0x22e2bc1392ac000890002140008400020c00082000204b5e670cd,
  0x5f00017800051b4692e53a4a5e0120b5e462d791400040b2e0fed1a35b468c534c2d2d78b0d0e151c3,
  0x22e2bc1392ac000890002140008400020c00082000204b5e670cd,
  0x5f00017800051b4692e5404a5e0120b5e462d791400040b2e0fed1a35b468c53502d2d78b0d1e151c5,
  0x22e2bc1392ac000890002140008400020c00082000204b5e670cd,
  0x5f00017800051b4692e5424a5e0120b5e462d791400040b2e0fed1a35b468c53522d2d78b0d22151c7,
  0x22e2bc1392ac000890002140008400020c00082000204b5e670cd,
  0x5f00017800051b4692e5444a5e0120b5e462d791400040b2e0fed1a35b468c53542d2d78b0d24151c9,
  0x22e2bc1452ac000890002140008400020c00082000204b62670cd,
  0x5f00017800051b4712e54c4a5e0920b62462d891400040b310fed1c35b470c53762d2d88b0cf2151cb,
  0x22e2bc1452ac000890002140008400020c00082000204b62670cd,
  0x5f00017800051b4712e5524a5e0920b62462d891400040b310fed1c35b470c537e2d2d88b0d06151cd,
  0x22e2bc1452ac000890002140008400020c00082000204b62670cd,
  0x5f00017800051b4712e5544a5e0920b62462d891400040b310fed1c35b470c53982d2d88b0d0e151cf,
  0x22e2bc1452ac000890002140008400020c00082000204b62670cd,
  0x5f00017800051b4712e5564a5e0920b62462d891400040b310fed1c35b470c539c2d2d88b0d1e151d1,
  0x22e2bc1452ac000890002140008400020c00082000204b62670cd,
  0x5f00017800051b4712e55c4a5e0920b62462d891400040b310fed1c35b470c539e2d2d88b0d22151d3,
  0x22e2bc1452ac000890002140008400020c00082000204b62670cd,
  0x5f00017800051b4712e55e4a5e0920b62462d891400040b310fed1c35b470c53a02d2d88b0d24151d5,
  0x8b8af044cab00022400085000210000830002080008126599c0005f0cd,
  0x5e000146b064b95812976a4826591899645000102c8a3fac18d6b06312ea0b94a22d2658b0000151d7,
  0x8b8af286aaf1132ac000890002140008400020c000820002049966700017c0005e0cd,
  0x1e905c000146b064b95892976a4826591899645000102c783fac18d6b06312ea0b94a22d2658b0000151d9,
  0x8b8af044cab00022400085000210000830002080008126599c0005f0cd,
  0x5e000146b064b95912976a4826591899645000102c783fac18d6b06312ea0b94a22d2658b0000151db,
  0x22e2bc1132ac000890002140008400020c00082000204996670cd,
  0x5f00017800051ac192e56c4a5da9209964626591400040ac18d6b06312ea0b94a22d2658b0000151dd,
  0x8b8af286aaf1132ac000890002140008400020c000820002049966700017c0005e0cd,
  0x1e905c000146b064b95d92976a4826591899645000102c8a3fac18d6b06312ea0b94a22d2658b0000151df,
  0xc200030686aaf000225e905c95f9280001510f, 0x22e2bc26599cce456339154ce45333914a5844a1e1,
  0x99646265914be84333910ab043f3390f8ce43c3390e8ce4373390d0ce4302ea0b94a22d2658b1cb0081e2,
  0x9f22bdd1a5c96192ad043f1e1, 0x96212ad043f1e1, 0x9f22bdd1a5c96412acb83f1e3,
  0xa77abe18a5c96592ac783f1e3, 0x96612acd23f1e4, 0x96692acd23f1e1, 0xa822be1ee5c96712ac783f1e3,
  0x96792ac9a3f1e3, 0x96912ac9a3f1e6, 0x96992acaa3f1e3, 0x96a12acb83f1e3, 0x96c12acc43f1e3,
  0x96d92acaa3f1e6, 0x96e12acc43f1e6,
  0x3e8ab29d19ed004b96e9297604829d118a7445b1e0fed0035b400c4bc62e3778b4a742c1e6,
  0x22400051970928dea2d13b, 0x25cc4a3a80b400015195,
  0x9f22bc36eab2b199dd1a5cb1e92e5d44a5d5920ac6462b1916c7a35b1e8c4bc62e3be0b4ac62c1e3,
  0x2265da4a4930b40001517d,
  0x480ab2b999ed124b977129774482b9918ae645b268fed1235b448c4bc62e41e0b4ae62c1e6,
  0x514ab2d899ed1c4b977929782482d8918b6245b310fed1c35b470c4bc62e4eb0b4b622c1e6,
  0x4b2ab2d719ed164b97992977e482d7118b5c45b2a8fed1635b458c4bc62e4d90b4b5c2c1e6,
  0x1392acb5e67b4692e5ec4a5e0120b5e462d7916d1a35b468c4bc62e4db0b4b5e2c1e6,
  0x97b92ac8a3f2f18b944a2d1e6,
  0x3e8ab29d19ed004b97c1297604829d118a7445b1e0fed0035b400c4bc62e3768b4a742c1e6,
  0x97c92ac8a3f2f18b94462d1e6, 0x97d128ef42d1f5, 0x97e928de42d1f3]

private def gotoRowsBlock4 : Array Nat := #[
  0x97f1292482d1f6, 0x25fe4a3a70b400015195,
  0x480ab2b999ed124b980129774482b9918ae645b268fed1235b448c4bc62e41d0b4ae62c1e6,
  0x4b2ab2d719ed164b98092977e482d7118b5c45b2a8fed1635b458c4bc62e4d80b4b5c2c1e6,
  0x1392acb5e67b4692e6044a5e0120b5e462d7916d1a35b468c4bc62e4da0b4b5e2c1e6,
  0x514ab2d899ed1c4b982129782482d8918b6245b310fed1c35b470c4bc62e4ea0b4b622c1e6,
  0x2d599e7b44b982928b56462d5916c8a3f9ed0d67b4312f18b8b562c1e6, 0x983128de82d1f3,
  0x2d919ea3a4b983928b64462d9116c8a3fa8e8d6a3a312f18b8b642c1e6, 0x984128dec2d1f3, 0x985928dee2d1f3,
  0x9861290962d1f3, 0x986928df22d1f3,
  0x3e8ab2a199de4e4b987129760482a1918a8645b1e0fde4e357938c4bc62e4278b4a742c1e6,
  0x9fe6774292e61e4a27f9189fe45b228fdd0a357428c4bc62e1e6, 0x988128df42d1f3, 0x988928df62d1f3,
  0x98a128dfa2d1f3, 0x4b2ab2d719ed164b98a92977e482d7118b5c45b2a8fed1635b458c4bc62e4ee8b4b5c2c1e6,
  0x98b128dfe2d1f3, 0x98d1290ce2d1f3, 0x98e928e002d1f3, 0x98f128e022d1f3, 0x98f928e042d1f3,
  0x991128e062d1f3, 0x991928e082d1f3, 0x992128e0a2d1f3, 0x992928e0c2d1f3, 0x993128e0e2d1f3,
  0x994928e102d1f3, 0x995128e122d1f3, 0x995928e162d1f3, 0x996128ece2d1f3,
  0x1392acb5e67b4692e65a4a5e0120b5e462d7916d1a35b468c4bc62e4ef0b4b5e2c1e6, 0x997128ed02d1f3,
  0x997928ed22d1f3, 0x999128ed42d1f3, 0x9999290e22d1f3,
  0x3e8ab29d19ed004b99a1297604829d118a7445b1e0fed0035b400c4bc62e43c0b4a742c1e6, 0x99a928e202d1f3,
  0x99b128e222d1f3, 0x99c92935c2d1f5,
  0x3e8ab29d19ed004b99d1297604829d118a7445b1e0fed0035b400c4bc62e4a28b4a742c1e6,
  0x3e8ab29d19ed004b99d9297604829d118a7445b1e0fed0035b400c4bc62e4a30b4a742c1e6, 0x99f9292902d1f6,
  0x9a1128e2e2d1f3, 0x3e8ab29d19ed004b9a19297604829d118a7445b1e0fed0035b400c4bc62e49f8b4a742c1e6,
  0x9a2128ef02d1f3, 0x9a3928f0a2d1f5, 0x9a4128f0c2d1f5, 0x9a4928f102d1f5, 0x9a5128f142d1f5,
  0x9a5928f402d1f5, 0x9a7128f442d1f5, 0x9a7928f462d1f5, 0x9a812929c2d1f5, 0x9a8928f482d1f5,
  0x9a9128f4a2d1f5, 0x9a9928f4c2d1f5, 0x9aa128f4e2d1f5, 0x9aa928f502d1f5, 0x9ab128f522d1f5,
  0x9ab928f542d1f5, 0x9ac128f562d1f5, 0x9ac928f582d1f5, 0x9ae128f5a2d1f5, 0x9ae928f5e2d1f5,
  0x9af1292a02d1f5, 0x9af928f662d1f5, 0x9b0128f682d1f5, 0x9b0928fd62d1f5, 0x9b1128ef62d1f5,
  0x26c64a4048b400015195,
  0x514ab2d899ed1c4b9b2129782482d8918b6245b310fed1c35b470c4bc62e4fc8b4b622c1e6,
  0x2d999eb144b9b2928b66462d9916c8a3fac50d6b14312f18b8b662c1e6, 0x26cc4a3a88b400015195,
  0x9b39292042d1f6, 0x9b41292082d1f6, 0x9b592920a2d1f6, 0x9b612920c2d1f6, 0x9b69292102d1f6,
  0x4b2ab2d719ed164b9b712977e482d7118b5c45b2a8fed1635b458c4bc62e5030b4b5c2c1e6, 0x9b79292142d1f6,
  0x9b81292182d1f6, 0x9b892921a2d1f6, 0x9b912921c2d1f6, 0x9b992921e2d1f6, 0x9ba1292202d1f6,
  0x9ba9292222d1f6, 0x9bb1292242d1f6, 0x9bb9292262d1f6, 0xa151292282d1f6, 0xa2992922a2d1f6,
  0xa3592922e2d1f6, 0x1292362d1f6, 0x1292382d1f6,
  0x3e8ab29d19ed004b0001297604829d118a7445b1e0fed0035b400c4bc62e4278b4a742c1e6, 0x12923c2d1f6,
  0x12ac8a3f2f18b944c2d1e6,
  0x3e8ab29d19ed004b0001297604829d118a7445b1e0fed0035b400c4bc62e3678b4a742c1e6,
  0x3e8ab29d19ed004b0001297604829d118a7445b1e0fed0035b400c4bc62e3688b4a742c1e6,
  0x3e8ab29d19ed004b0001297604829d118a7445b1e0fed0035b400c4bc62e3690b4a742c1e6,
  0x3e8ab29d19ed004b0001297604829d118a7445b1e0fed0035b400c4bc62e3698b4a742c1e6,
  0x3e8ab29d19ed004b0001297604829d118a7445b1e0fed0035b400c4bc62e36a8b4a742c1e6,
  0x3e8ab29d19ed004b0001297604829d118a7445b1e0fed0035b400c4bc62e36b0b4a742c1e6,
  0x3e8ab29d19ed004b0001297604829d118a7445b1e0fed0035b400c4bc62e3970b4a742c1e6,
  0x3e8ab29d19ed004b0001297604829d118a7445b1e0fed0035b400c4bc62e36b8b4a742c1e6,
  0x3e8ab29d19ed004b0001297604829d118a7445b1e0fed0035b400c4bc62e36c0b4a742c1e6,
  0x3e8ab29d19ed004b0001297604829d118a7445b1e0fed0035b400c4bc62e36c8b4a742c1e6,
  0x3e8ab29d19ed004b0001297604829d118a7445b1e0fed0035b400c4bc62e36d0b4a742c1e6,
  0x3e8ab29d19ed004b0001297604829d118a7445b1e0fed0035b400c4bc62e36d8b4a742c1e6,
  0x3e8ab29d19ed004b0001297604829d118a7445b1e0fed0035b400c4bc62e36e0b4a742c1e6,
  0x3e8ab29d19ed004b0001297604829d118a7445b1e0fed0035b400c4bc62e36e8b4a742c1e6,
  0x3e8ab29d19ed004b0001297604829d118a7445b1e0fed0035b400c4bc62e36f0b4a742c1e6,
  0x3e8ab29d19ed004b0001297604829d118a7445b1e0fed0035b400c4bc62e36f8b4a742c1e6,
  0x3e8ab29d19ed004b0001297604829d118a7445b1e0fed0035b400c4bc62e3700b4a742c1e6,
  0x3e8ab29d19ed004b0001297604829d118a7445b1e0fed0035b400c4bc62e3710b4a742c1e6,
  0x3e8ab29d19ed004b0001297604829d118a7445b1e0fed0035b400c4bc62e4ba8b4a742c1e6,
  0x3e8ab29d19ed004b0001297604829d118a7445b1e0fed0035b400c4bc62e3730b4a742c1e6,
  0x3e8ab29d19ed004b0001297604829d118a7445b1e0fed0035b400c4bc62e3738b4a742c1e6,
  0x3e8ab29d19ed004b0001297604829d118a7445b1e0fed0035b400c4bc62e3740b4a742c1e6,
  0x3e8ab29d19ed004b0001297604829d118a7445b1e0fed0035b400c4bc62e3770b4a742c1e6,
  0x2da19ec824b000128b68462da116c8a3fb208d6c82312f18b8b682c1e6, 0x4a3998b400015195, 0xe6a2d27b,
  0xe6c2d27b, 0xe6e2d27b, 0xe722d27b]

private def gotoRowsBlock5 : Array Nat := #[
  0x4b2ab2d719ed164b00012977e482d7118b5c45b2a8fed1635b458c4bc62e5110b4b5c2c1e6, 0xe742d27b,
  0xe762d27b, 0xe782d27b, 0xe7a2d27b, 0xe7c2d27b, 0xe7e2d27b, 0xe802d27b, 0xe822d27b, 0xe842d27b,
  0xe862d27b, 0xe882d27b, 0xe8c2d27b, 0xe942d27b, 0xe962d27b, 0xe982d27b,
  0x514ab2d899ed1c4b000129782482d8918b6245b310fed1c35b470c4bc62e4eb8b4b622c1e6,
  0x12ac8a3f2f18b94102d1e6, 0x12ac8a3f2f18b94142d1e6, 0x12ac8a3f2f18b94162d1e6,
  0x12ac8a3f2f18b94182d1e6, 0x12ac8a3f2f18b941c2d1e6, 0x12ac8a3f2f18b941e2d1e6,
  0x12ac8a3f2f18b94202d1e6, 0x12ac8a3f2f18b94222d1e6, 0x12ac8a3f2f18b94242d1e6,
  0x12ac8a3f2f18b94262d1e6, 0x12ac8a3f2f18b94282d1e6, 0x12ac8a3f2f18b942a2d1e6,
  0x12ac8a3f2f18b942c2d1e6, 0x12ac8a3f2f18b942e2d1e6, 0x12ac8a3f2f18b94302d1e6,
  0x12ac8a3f2f18b94322d1e6, 0x12ac8a3f2f18b94362d1e6, 0x12ac8a3f2f18b943e2d1e6,
  0x12ac8a3f2f18b94402d1e6, 0x12ac8a3f2f18b94422d1e6, 0x12ac8a3f2f18b94482d1e6,
  0x2da99ec924b000128b6a462da916c8a3fb248d6c92312f18b8b6a2c1e6,
  0x4b2ab2d719ed164b00012977e482d7118b5c45b2a8fed1635b458c4bc62e5138b4b5c2c1e6,
  0x480ab2b999ed124b000129774482b9918ae645b268fed1235b448c4bc62e4100b4ae62c1e6,
  0x480ab2b999ed124b000129774482b9918ae645b268fed1235b448c4bc62e4110b4ae62c1e6,
  0x480ab2b999ed124b000129774482b9918ae645b268fed1235b448c4bc62e4118b4ae62c1e6,
  0x480ab2b999ed124b000129774482b9918ae645b268fed1235b448c4bc62e4120b4ae62c1e6,
  0x480ab2b999ed124b000129774482b9918ae645b268fed1235b448c4bc62e4130b4ae62c1e6,
  0x480ab2b999ed124b000129774482b9918ae645b268fed1235b448c4bc62e4138b4ae62c1e6,
  0x480ab2b999ed124b000129774482b9918ae645b268fed1235b448c4bc62e4140b4ae62c1e6,
  0x480ab2b999ed124b000129774482b9918ae645b268fed1235b448c4bc62e4148b4ae62c1e6,
  0x480ab2b999ed124b000129774482b9918ae645b268fed1235b448c4bc62e4150b4ae62c1e6,
  0x480ab2b999ed124b000129774482b9918ae645b268fed1235b448c4bc62e4158b4ae62c1e6,
  0x480ab2b999ed124b000129774482b9918ae645b268fed1235b448c4bc62e4160b4ae62c1e6,
  0x480ab2b999ed124b000129774482b9918ae645b268fed1235b448c4bc62e4168b4ae62c1e6,
  0x480ab2b999ed124b000129774482b9918ae645b268fed1235b448c4bc62e4170b4ae62c1e6,
  0x480ab2b999ed124b000129774482b9918ae645b268fed1235b448c4bc62e4178b4ae62c1e6,
  0x480ab2b999ed124b000129774482b9918ae645b268fed1235b448c4bc62e4180b4ae62c1e6,
  0x480ab2b999ed124b000129774482b9918ae645b268fed1235b448c4bc62e4188b4ae62c1e6,
  0x480ab2b999ed124b000129774482b9918ae645b268fed1235b448c4bc62e4198b4ae62c1e6,
  0x480ab2b999ed124b000129774482b9918ae645b268fed1235b448c4bc62e41b8b4ae62c1e6,
  0x480ab2b999ed124b000129774482b9918ae645b268fed1235b448c4bc62e41c0b4ae62c1e6,
  0x480ab2b999ed124b000129774482b9918ae645b268fed1235b448c4bc62e41c8b4ae62c1e6,
  0x480ab2b999ed124b000129774482b9918ae645b268fed1235b448c4bc62e41d8b4ae62c1e6,
  0x2db19eca24b000128b6c462db116c8a3fb288d6ca2312f18b8b6c2c1e6,
  0x4b2ab2d719ed164b00012977e482d7118b5c45b2a8fed1635b458c4bc62e5140b4b5c2c1e6,
  0x4b2ab2d719ed164b00012977e482d7118b5c45b2a8fed1635b458c4bc62e4bd0b4b5c2c1e6,
  0x4b2ab2d719ed164b00012977e482d7118b5c45b2a8fed1635b458c4bc62e4be0b4b5c2c1e6,
  0x4b2ab2d719ed164b00012977e482d7118b5c45b2a8fed1635b458c4bc62e4be8b4b5c2c1e6,
  0x4b2ab2d719ed164b00012977e482d7118b5c45b2a8fed1635b458c4bc62e4bf0b4b5c2c1e6,
  0x4b2ab2d719ed164b00012977e482d7118b5c45b2a8fed1635b458c4bc62e4c00b4b5c2c1e6,
  0x4b2ab2d719ed164b00012977e482d7118b5c45b2a8fed1635b458c4bc62e4c08b4b5c2c1e6,
  0x4b2ab2d719ed164b00012977e482d7118b5c45b2a8fed1635b458c4bc62e4c10b4b5c2c1e6,
  0x4b2ab2d719ed164b00012977e482d7118b5c45b2a8fed1635b458c4bc62e4c18b4b5c2c1e6,
  0x4b2ab2d719ed164b00012977e482d7118b5c45b2a8fed1635b458c4bc62e4c20b4b5c2c1e6,
  0x4b2ab2d719ed164b00012977e482d7118b5c45b2a8fed1635b458c4bc62e4c28b4b5c2c1e6,
  0x4b2ab2d719ed164b00012977e482d7118b5c45b2a8fed1635b458c4bc62e4c30b4b5c2c1e6,
  0x4b2ab2d719ed164b00012977e482d7118b5c45b2a8fed1635b458c4bc62e4c38b4b5c2c1e6,
  0x4b2ab2d719ed164b00012977e482d7118b5c45b2a8fed1635b458c4bc62e4c40b4b5c2c1e6,
  0x4b2ab2d719ed164b00012977e482d7118b5c45b2a8fed1635b458c4bc62e4c48b4b5c2c1e6,
  0x4b2ab2d719ed164b00012977e482d7118b5c45b2a8fed1635b458c4bc62e4c50b4b5c2c1e6,
  0x4b2ab2d719ed164b00012977e482d7118b5c45b2a8fed1635b458c4bc62e4c58b4b5c2c1e6,
  0x4b2ab2d719ed164b00012977e482d7118b5c45b2a8fed1635b458c4bc62e4c68b4b5c2c1e6,
  0x4b2ab2d719ed164b00012977e482d7118b5c45b2a8fed1635b458c4bc62e4c88b4b5c2c1e6,
  0x4b2ab2d719ed164b00012977e482d7118b5c45b2a8fed1635b458c4bc62e4c90b4b5c2c1e6,
  0x4b2ab2d719ed164b00012977e482d7118b5c45b2a8fed1635b458c4bc62e4c98b4b5c2c1e6,
  0x4b2ab2d719ed164b00012977e482d7118b5c45b2a8fed1635b458c4bc62e4d88b4b5c2c1e6,
  0x2db99ecb24b000128b6e462db916c8a3fb2c8d6cb2312f18b8b6e2c1e6,
  0x4b2ab2d719ed164b00012977e482d7118b5c45b2a8fed1635b458c4bc62e5148b4b5c2c1e6,
  0x1392acb5e67b4692c0004a5e0120b5e462d7916d1a35b468c4bc62e4ca0b4b5e2c1e6,
  0x1392acb5e67b4692c0004a5e0120b5e462d7916d1a35b468c4bc62e4cb0b4b5e2c1e6,
  0x1392acb5e67b4692c0004a5e0120b5e462d7916d1a35b468c4bc62e4cb8b4b5e2c1e6,
  0x1392acb5e67b4692c0004a5e0120b5e462d7916d1a35b468c4bc62e4cc0b4b5e2c1e6,
  0x1392acb5e67b4692c0004a5e0120b5e462d7916d1a35b468c4bc62e4cd0b4b5e2c1e6,
  0x1392acb5e67b4692c0004a5e0120b5e462d7916d1a35b468c4bc62e4cd8b4b5e2c1e6,
  0x1392acb5e67b4692c0004a5e0120b5e462d7916d1a35b468c4bc62e4ce0b4b5e2c1e6,
  0x1392acb5e67b4692c0004a5e0120b5e462d7916d1a35b468c4bc62e4ce8b4b5e2c1e6,
  0x1392acb5e67b4692c0004a5e0120b5e462d7916d1a35b468c4bc62e4cf0b4b5e2c1e6,
  0x1392acb5e67b4692c0004a5e0120b5e462d7916d1a35b468c4bc62e4cf8b4b5e2c1e6,
  0x1392acb5e67b4692c0004a5e0120b5e462d7916d1a35b468c4bc62e4d00b4b5e2c1e6,
  0x1392acb5e67b4692c0004a5e0120b5e462d7916d1a35b468c4bc62e4d08b4b5e2c1e6,
  0x1392acb5e67b4692c0004a5e0120b5e462d7916d1a35b468c4bc62e4d10b4b5e2c1e6,
  0x1392acb5e67b4692c0004a5e0120b5e462d7916d1a35b468c4bc62e4d18b4b5e2c1e6,
  0x1392acb5e67b4692c0004a5e0120b5e462d7916d1a35b468c4bc62e4d20b4b5e2c1e6,
  0x1392acb5e67b4692c0004a5e0120b5e462d7916d1a35b468c4bc62e4d28b4b5e2c1e6,
  0x1392acb5e67b4692c0004a5e0120b5e462d7916d1a35b468c4bc62e4d38b4b5e2c1e6,
  0x1392acb5e67b4692c0004a5e0120b5e462d7916d1a35b468c4bc62e4d58b4b5e2c1e6,
  0x1392acb5e67b4692c0004a5e0120b5e462d7916d1a35b468c4bc62e4d60b4b5e2c1e6,
  0x1392acb5e67b4692c0004a5e0120b5e462d7916d1a35b468c4bc62e4d68b4b5e2c1e6,
  0x1392acb5e67b4692c0004a5e0120b5e462d7916d1a35b468c4bc62e4da8b4b5e2c1e6,
  0x2dc19ecc04b000128b70462dc116c8a3fb300d6cc0312f18b8b702c1e6,
  0x4b2ab2d719ed164b00012977e482d7118b5c45b2a8fed1635b458c4bc62e5150b4b5c2c1e6,
  0x514ab2d899ed1c4b000129782482d8918b6245b310fed1c35b470c4bc62e4dd0b4b622c1e6,
  0x514ab2d899ed1c4b000129782482d8918b6245b310fed1c35b470c4bc62e4de0b4b622c1e6,
  0x514ab2d899ed1c4b000129782482d8918b6245b310fed1c35b470c4bc62e4de8b4b622c1e6,
  0x514ab2d899ed1c4b000129782482d8918b6245b310fed1c35b470c4bc62e4df0b4b622c1e6,
  0x514ab2d899ed1c4b000129782482d8918b6245b310fed1c35b470c4bc62e4e00b4b622c1e6,
  0x514ab2d899ed1c4b000129782482d8918b6245b310fed1c35b470c4bc62e4e08b4b622c1e6,
  0x514ab2d899ed1c4b000129782482d8918b6245b310fed1c35b470c4bc62e4e10b4b622c1e6,
  0x514ab2d899ed1c4b000129782482d8918b6245b310fed1c35b470c4bc62e4e18b4b622c1e6,
  0x514ab2d899ed1c4b000129782482d8918b6245b310fed1c35b470c4bc62e4e20b4b622c1e6,
  0x514ab2d899ed1c4b000129782482d8918b6245b310fed1c35b470c4bc62e4e28b4b622c1e6,
  0x514ab2d899ed1c4b000129782482d8918b6245b310fed1c35b470c4bc62e4e30b4b622c1e6,
  0x514ab2d899ed1c4b000129782482d8918b6245b310fed1c35b470c4bc62e4e38b4b622c1e6,
  0x514ab2d899ed1c4b000129782482d8918b6245b310fed1c35b470c4bc62e4e40b4b622c1e6,
  0x514ab2d899ed1c4b000129782482d8918b6245b310fed1c35b470c4bc62e4e48b4b622c1e6,
  0x514ab2d899ed1c4b000129782482d8918b6245b310fed1c35b470c4bc62e4e50b4b622c1e6,
  0x514ab2d899ed1c4b000129782482d8918b6245b310fed1c35b470c4bc62e4e58b4b622c1e6,
  0x514ab2d899ed1c4b000129782482d8918b6245b310fed1c35b470c4bc62e4e68b4b622c1e6,
  0x514ab2d899ed1c4b000129782482d8918b6245b310fed1c35b470c4bc62e4e88b4b622c1e6,
  0x514ab2d899ed1c4b000129782482d8918b6245b310fed1c35b470c4bc62e4e90b4b622c1e6]

private def gotoRowsBlock6 : Array Nat := #[
  0x514ab2d899ed1c4b000129782482d8918b6245b310fed1c35b470c4bc62e4e98b4b622c1e6,
  0x514ab2d899ed1c4b000129782482d8918b6245b310fed1c35b470c4bc62e4ea8b4b622c1e6,
  0x2dc99eccc4b000128b72462dc916c8a3fb330d6ccc312f18b8b722c1e6,
  0x4b2ab2d719ed164b00012977e482d7118b5c45b2a8fed1635b458c4bc62e5158b4b5c2c1e6, 0x12924a2d1f6,
  0x12924e2d1f6, 0x3e8ab29d19ed004b0001297604829d118a7445b1e0fed0035b400c4bc62e3780b4a742c1e6,
  0xe9e2d27b, 0x480ab2b999ed124b000129774482b9918ae645b268fed1235b448c4bc62e41e8b4ae62c1e6,
  0x4b2ab2d719ed164b00012977e482d7118b5c45b2a8fed1635b458c4bc62e4d98b4b5c2c1e6,
  0x1392acb5e67b4692c0004a5e0120b5e462d7916d1a35b468c4bc62e4db8b4b5e2c1e6,
  0x2dd19ecde4b000128b74462dd116c8a3fb378d6cde312f18b8b742c1e6,
  0x4b2ab2d719ed164b00012977e482d7118b5c45b2a8fed1635b458c4bc62e5168b4b5c2c1e6,
  0x2dd99ed0e4b000128b76462dd916c8a3fb438d6d0e312f18b8b762c1e6,
  0x4b2ab2d719ed164b00012977e482d7118b5c45b2a8fed1635b458c4bc62e5170b4b5c2c1e6,
  0x9e3b0c9b6bc698ae9a66b9699ae1a62b7699ad9a66b5a7cabda66ac2faaad99caa000,
  0x1a66a9699aa1a66a769a299a66a5699a8da66a2699a860f29b699a69a6699698a61a6697699255a629430f,
  0x1b0e8e83c231a588b646a2995a7ab02170a2c5833b15da5e5289792e71641b2d0da25e358978c677808310,
  0x9e5b0cf02ba3c1ae4f06b83c0adcf06b63c1ad69d6af3c1ab0beaab000,
  0xe50aa3c1aa4f06a83c1a9cf08a63c1a94f06a33c1a88f06a13e426cf069a3c1a64f02983c1a5cf0495312,
  0xf02943e4a38f908c3c022ce368a38d1eab1e5c33b15cefc528f312e71641b158da3cc358f30c671208313,
  0x279cc33f4a6cfd48e3f4a300004b0000d400031314, 0xc18ba3072e4c1cb83062dcc1cb63072d6232b2000,
  0x281eb1a7b2bcc1cac5b4aacbe0aa3072a4c1ca830729cc1ea6307294c1ca3307288c1ca1318a6cc1c9a316,
  0xc1c99306260c1c97306a54c1894319238c628c305a2cbd48aa1c224bd27aaef970c1252b258da76808317,
  0x63e2e98fcb963f2e18f8b763f2d98fcb5000,
  0x29e6af63f2b13c6ab631aa98fca963f2a18fca763fa998fca563f28d8fca263f28592c9b63f2698fc99319,
  0x18f89863f25d8fa9563e25192e8e64b2318bc8b5f12298087aadc970cec5763d14a71641b218da74a0831a,
  0x5422ad9449b651a399448c42415e3404131b, 0xb20002c67ecab32726cc9e8e3272300008942415e7ea41318,
  0x30c000bca462ada989b6a6a39a988c669a2d8d28a000160be45700012e916410000d400031311,
  0x1884ab6ad26dab68e6ad230be65731e, 0xc500030c000bc0b0,
  0x29faafa462adcf6aa774239aea8a0002000007d0001edb3a7a0001e4000770001d8000750001d00006a320,
  0x2c585c0001600004ba459040003d0000ec000380000d4000310000b00001400004c000129ec02000007321,
  0x9fb2ad7009b776a397008c3df95e7ea41322, 0x6c8aaddae9b666a39dac8c63b22d8068a3f115e7ea4131b,
  0xa80abdb40aa73e2399b68a5ab1eace45c4af95e7a608322, 0x1884ab5c026dcfe8e5c02312c057325,
  0x233ab09f8abd6c4aa00026dd248e0002316ae8a5ab1eaa485c47995e33808322, 0x2c1884ab5f82391e857327,
  0x27ecab5b12a80009b743a380008c4b195e7ea41325, 0x1b22ab63f2a80009b6442380008c4b215e7ea4131b,
  0xb0756a3940457327, 0x895a3940657328, 0xb08a6a3902a57327, 0x2c18f0ab8ab23902c57327,
  0xb0647aae2bc8e60395c00041327, 0x16daab8b323968a5732f, 0x2826ab74d2389f45732f,
  0xc48ab5b3238c465732f, 0xc4cab5f7a38c4a5732f, 0x3142ad6d4958dea38c4e5732f,
  0x3dbaad6d6958dea38f6c5732f, 0x30cf72ab3c1aa80009b3b1a380008c3dc15c00041315,
  0xf76ab3b3238f7457336, 0xa4baade748e56d15c0004132a, 0x5b72ad8fcaa00026c0008c5a315c00041324,
  0x16deab894261e96958dea3968e5732f, 0x1920ab7a6a398105732f, 0x1922ab7562398125732f,
  0x1a8aab5baa399625732f, 0x1a8cab5faa399645732f, 0x6a3aae2528e65995c00041329,
  0xa0a2adea68e43495c0004132a, 0x8993366faab5bf2380005732f, 0x2930ab5fc238d0c5732f,
  0x899b366fcab5fd2380005732f, 0x190eab5fda380005732f, 0xc34ab89a2380005732f,
  0xc40ab5b12a80009b7b52380008c00015c00041322, 0xf2eab89aa380005732f, 0xf3aab5c12380005732f,
  0x16d8ab5c1a380005732f, 0x1a7aab89b2380005732f, 0x6462adf008e00015c0004132a, 0x6a12adafe8e34b,
  0x8c930a704c1000,
  0x222cbc74e2d1d38b3a62abdd38ae74e2b56c8a05a1a7d63a9e58e27559c8255ba05d38685f99917e66334d,
  0x231e629c0986702608c797d9a05c28b1617e6529c0932a6a4b7988fea6a358c78cea6a3188b821d380234e,
  0x1decb477b2cddecae77b2b4f1ca03c6a7cd8a9e362275dec688a5021dec0234f,
  0x2322c1640a8180c9f5aa2796a69d8c8186320608c81322a80834f, 0x2adb008e34b, 0x2adb028e34b,
  0xab89ca380005732f, 0x22748e354, 0x17088e354, 0x22768e354, 0x22788e354, 0x227a8e354, 0x18028e354,
  0xab3c9a3800057336, 0xf288e35b, 0xf308e35b,
  0x16c0ba5b02de7e2af5b0260f32955b02527288e5ac22d6ae8aa921723380835b, 0xf369535e,
  0x19cc8e66322d8728a354, 0xf9e8e35b, 0xfa08e35b, 0xfca8e35b, 0xfcc8e35b,
  0xab699aa80009b694a380008c00015c0004131e, 0x1a548e365, 0xff08e35b, 0xff28e35b, 0x100a8e35b,
  0x100c8e35b, 0x2ad9068e34b, 0x2ad9088e34b,
  0x5b02e96c0b79f8abc000ab5b0261912955b02527548e5ac22d6ae8aa921723380834b, 0x19169536d,
  0x2ad9308e34b, 0x2ad9328e34b, 0x2ad93e8e34b, 0x2ad9408e34b, 0x10208e35b, 0x10228e35b,
  0x2ad9508e34b, 0x2ad9528e34b, 0x2ad9568e34b, 0x2ad9588e34b,
  0x2c8000b10002acc1caa00026cc2c8e00023000089318, 0xc2e8e379, 0xc368e379,
  0x16c0ba5b02de7e2af5b0260c38955b025276c8e5ac22d6ae8aa9217233808379, 0xc3c9537c, 0xc6e8e379,
  0xc708e379]

private def gotoRowsBlock7 : Array Nat := #[
  0xc968e379, 0xc988e379, 0xcb88e379, 0xcba8e379, 0xcd28e379, 0xcd48e379, 0x1a728e365, 0x1a748e365,
  0x1a7c8e365, 0x16c0ba5b02de7e2af5b0261a7e955b025277c8e5ac22d6ae8aa9217233808365, 0x1a8295389,
  0x1a9e8e365, 0x1aa08e365, 0x1aac8e365, 0x1aae8e365, 0x1abc8e365, 0x1abe8e365, 0x1ac28e365,
  0x1ac48e365, 0x2ad6cc8e346, 0x2ade188e346, 0x2ade1a8e346, 0x16d4959eba39b3a7a354,
  0x16d6959eba39b3a7a354, 0x1dc28e354, 0xbf08e379, 0xbf28e379, 0x2ad6ea8e346, 0x2addd28e346,
  0x2ad6fc8e346, 0x2addd88e346, 0x2adddc8e346, 0x2addde8e346, 0x2ad7048e346, 0x2ad7068e346,
  0x2ad7088e346, 0x2adde68e346, 0x2ad9488e34b, 0x2ad94a8e34b, 0x1dea8e354, 0xcd88e379, 0xcda8e379,
  0x1df48e354, 0x1dfe8e354, 0x1e088e354, 0x2ae1868e34b, 0x2ad6ea8e00015c00041329, 0x1cfa8e3ae,
  0x2ae1948e34b, 0x16fc8e3ae, 0x1cfc8e3ae, 0x1d008e3ae, 0x1d028e3ae, 0x17048e3ae, 0x17068e3ae,
  0x229e8e354, 0x2ae1a08e34b, 0x17088e3ae, 0x1d048e3ae, 0x22ae8e354, 0x22be8e354, 0x22ce8e354,
  0x16cc8e3ae, 0x1d0c8e3ae, 0x5b52567b68e354, 0x5b5a567b68e354, 0x22e88e354, 0x22fc8e3ae,
  0x22fe8e354, 0x23008e3ae, 0x23028e3ae, 0x23048e3ae, 0x230a8e3ae, 0x230c8e3ae,
  0x308000c17552d1d54b334f,
  0x1d54ae7552b4c28a0309a7cbc09e2efa75d54689ff98a80061a001827fe5fa001327fe338ae021d54023ca,
  0x1deeb477bacddeeae77bab5a6ea0657a7d7549e5d4a75dee688b2021dee023cb, 0x308000c16392798e29d34f,
  0x15908255a2057dc645f718c000620001840006000017d7dc520001300004b0000d4000330000c62d8083cd,
  0x8c930a322c1a42abde848956220956281000,
  0x1b4a646d298e31e628c8186320608c797da4a5c6d294a3204ca9a92e3a64a7540fea6a358c78cea6a313cf,
  0x2704c17ae226702619c09827024c8f3929d623f3d0, 0x2e232527abc8ddad298aaf000,
  0x1eb889563a09510818dd9a6228688dd99578a645e298d4ae602e21759a05c56c16178a528f392a3d03f3d2,
  0xb8ac99f22bdebc892e2975d1a5c8f592a91c3f3d3, 0xb92c9a42abdeda892e4975a4a5c8f9929d743f3d3,
  0xb98c97b6a24b985d8f992a3ec3f3d3, 0xb9ec97b8224b9e5d8fc92a93a3f3d4,
  0xba4c97b8a24ba45d8fd12a93a3f3d4,
  0xc20003067c8af7bba267fe62a00186800609ff97dd1a5ca001324024aa4e8fe7fe333d0,
  0x1dc6b4771acddc6ae771ab4000a000027c0009e000275dc668000021dc6023ce,
  0x77b2d1decb377b2b9decad77b1a1dec023da, 0x77dad1df6b377dab9df6ad77d9a1df6023da,
  0x7802d1e00b37802b9e00ad7801a1e00023da, 0x782ad1e0ab3782ab9e0aad7829a1e0a023da,
  0x7b1ad1ec6b37b1ab9ec6ad7b19a1ec6023da, 0x7552d1d54b37552b9d54ad7551a1d54023da,
  0x7732d1dccb37732b9dccad7731a1dcc023da, 0x77bad1deeb377bab9deead77b9a1dee023da,
  0x77e2d1df8b377e2b9df8ad77e1a1df8023da, 0x780ad1e02b3780ab9e02ad7809a1e02023da,
  0x7832d1e0cb37832b9e0cad7831a1e0c023da,
  0x2706c29f22bdef089a9b192a6c639c018a7005f746972a6c52a9a92e4044aa4e8fea6a359c00cea6a31000,
  0x2324c2a42abdf0a898c798a31e5f6929724124a7608fe31e333e6, 0xc27c42267fe629ff97e4184aa578fe7fe333e6,
  0x9d1b067c8af7c5a2558882558a05b7c646df18e744619d1181d1a5c6df14a7444c90812a95e3f000,
  0x305f3889a0018680060a0013244e4a3e9,
  0x154abc9f22bdf3a8956620951a815e59917966352c981d1a5c56c1617965291412a95e3f000,
  0x2356c29c63067c8af7d1a255a8825fb9917ee637469717ee5291792a95e3f000, 0x2354c17d22264604a3ec,
  0x290aaf7dca26200709f4199a4a5c87f94a46e4a7638fea260da898327ce0a000,
  0x9f22bdf7a898861c1d1a5c88594a47e4aa5d0fe7f40a3ee,
  0x8d5b0a354c19f22bdfb4890699e1d1a5c06314a4da4aa5d0fc18a36000, 0x1fba891999e064252938928606363f0,
  0x2718c17f6a2650e4a3f0, 0x9c63060428996a92a97e3f3f1,
  0xa42abdeba89565209792645e498da4a5c5e494a3d24a75a0fd4f815000,
  0xa42abdedc89572a0952a816789919e2636929719e2528fa129d723f000,
  0xa62abd5e48254d2059ea6467a98d9a05c67a94a3ee3f3f5, 0x1eec89000209dca6477298ddca528ff92a93c3f3ec,
  0x8d530690aaf7c2225a4a5c903129d803f3f7,
  0x9d330698aaf7c222558c8274b191d2c63668171d2c5290312a4143f000,
  0x6d52bd5a082a8c1ce334715e799179e6374a17108c5b5e794a7de39000,
  0x6de2be8de7fa8c1ce3347189c19227063aa09710d65b89c14a83039000,
  0x6e0abe73c7f86399218e637a49713c05b86394a856393fb,
  0x72cabea30738cd1c67f666aaa170ce85ba9914a90c398d403aa6406000, 0x1cbeaf6e7970d105ba4c8e68900e3fd,
  0x89563209d2c6474b18dd2c5200012aa363f3ed]

private def gotoRowsBlock8 : Array Nat := #[
  0x2718c13ff, 0x27c8af7c52255d88267a1919e8637469719e85290712a95c3f000,
  0x7c722560682681191a046368114a4264a401, 0x7d122559a825f91917e4635f914a45a4a401,
  0x7d322559e825e719179c635e714a4644a401, 0x290aaf7dc2255a2825e81917a0636929717a05291a929d8c3f000,
  0x1f7889569a097ec645fb18d7ec5291d92a9723f401, 0x1f7e8956aa097ae645eb98d7ae5292092a9723f401,
  0x1fb88956b2097fa645fe98d7fa5293792a9723f401, 0x1fc08957c2099f26467c98d9f25293a12a9723f401,
  0x1fde8957da099f66467d98d9f65294492a9723f401, 0x1fe289583a09a146468518da145294612a9723f401,
  0x200289584a09a226468898da2252948929d943f405, 0x200889564a09d406475018dd405294c12a97c3f401,
  0x2040895692097a4645e918d7a45296892a97c3f401, 0x20468957fa099fe6467f98d9fe5296b92a97c3f401,
  0x207089565a09794645e518d7945297e12a97c3f401,
  0x27c8af82aa263b87f7a7991e9e63746971e9e5299892a9803f000,
  0x1b72af3571e2a30738cd1c5ecc5c06b16cc0e52a040e4c0c36000,
  0x1b7aaf3649e2ad45c18896cbf852a0e0e4bf636412, 0x1b7eaf8369e1bba5c43816dcaa52a130e5b1236412,
  0x1b8aafa8c1ce334715e89917a2636931706be5b5e894a87a39000,
  0x1b8eaf5ec1917b0636689701b85b5ec14a87c39415, 0x1b90af753991d4e63acb97062e5b75394a88839415,
  0x1b96af754991d52638631711225b75494a8a239415, 0x1b98af759191d6463acd9713cc5b75914a8a839415,
  0x1ba2af785191e14638661707045b78514a8bc39415, 0x1cbaaf75b191d6c63ad49711885b75b14a92039415,
  0x1cc0af75d991d7663ae09721005b75d94a93839415, 0x1cc2af5ea1917a863ae1170d165b5ea14a93e39415,
  0x1cc6af5ea9917aa63ae79721105b5ea94a95239415, 0x1ccaaf5ed1917b463af39711965b5ed14a95439415,
  0x1cccaf75e991d7a63af41721245b75e94a95a39415, 0x1cceaf5fe1917f863afa970d3a5b5fe14a96639415,
  0x1cd0af761191d8463b059721425b76114a96e39415, 0x1cd2af5ed9917b663b061711ae5b5ed94a98c39415,
  0x1cd8af5ee1917b863b0c9711ba5b5ee14a9a239415, 0x2356c29c630685eaf5ee9917ba636e19717ba52000,
  0x8d53057be645ef98d7be52425, 0x298aaf7a3225d886476218d9a05c762149e8a3f000,
  0x1ec4895ff1917fc635ff149ec03f427, 0x5ff9917fe635ff949c863f427, 0x1efa89764191d9063764149ef63f427,
  0x1ec4895f01917c0635f0149c883f427, 0x1f5689764991d9263764949f523f427,
  0x1efa8960019180063600149c8e3f427, 0x1fec89787991e1e63787949fe83f427,
  0x1f5689788991e2263788949c923f427, 0x1fec89789191e2463789149c963f427,
  0x1eca89789991e2663789949ec83f427, 0x1efc89775191dd463775149ef23f427,
  0x1eca89778191de063778149c8a3f427, 0x1f5489778991de263778949f4e3f427,
  0x1efc89779191de463779149c8c3f427, 0x1fea89759991d6663759949fe43f427,
  0x1f548975e191d786375e149c903f427, 0x20788967e1919f86367e14a0723f427,
  0x1fea89685991a1663685949c943f427, 0x207889689191a2463689149c983f427,
  0x1e6aaf1a32b23807c690991a4263b18971a4252000, 0x2182af83b2b272e7c691191a4463b19971a4452000,
  0x9f22bda026468098dd1a5c68094ac903f000, 0x682991a0a6368294ac803f43d, 0x683191a0c6368314ab103f43d,
  0x684991a126368494ad0c3f43d, 0x687991a1e6368794acbe3f43d, 0x68b191a2c6368b14aca03f43d,
  0x68b991a2e6368b94acdc3f43d, 0x68c191a306368c14acb03f43d, 0x68c991a326368c94acca3f43d,
  0x68e191a386368e14a7e03f43d, 0x68e991a3a6368e94a8023f43d, 0x68f191a3c6368f14a8143f43d,
  0x691991a466369194a90e3f43d, 0x692191a486369214a9243f43d, 0x757991d5e6375794a8163f43d,
  0x75c191d706375c14a8443f43d, 0x75f991d7e6375f94a85a3f43d, 0x761991d866376194a8983f43d,
  0x762991d8a6376294a8d03f43d, 0x766191d986376614a8e83f43d, 0xa62abdd9a6476698d9a05c76694a4163f000,
  0x77a191de86377a14a8f23f43d, 0x78a191e286378a14a4723f451, 0x5e99917a6635e994a8fa3f43d,
  0xa42abd7ac645eb18da4a5c5eb149d963f000, 0x5ec9917b2635ec94a0763f451, 0x5ef1917bc635ef149d9e3f455,
  0x67b1919ec6367b14a0c63f451, 0x67b9919ee6367b949c9a3f451, 0x67d1919f46367d149c9e3f451,
  0x67e9919fa6367e94a9263f43d, 0x67f1919fc6367f14a9443f43d, 0x680191a006368014a9823f43d,
  0x681991a066368194a9863f43d, 0x682191a0863682149e603f455, 0x683991a0e63683949e723f455,
  0x684191a106368414a8483f43d, 0x686191a186368614a84e3f43d, 0x686991a1a63686949e883f455,
  0x687191a1c6368714a85c3f43d, 0x688191a2063688149ea43f455, 0x689991a266368994a8863f43d,
  0x68a191a286368a14a8943f43d, 0x68a991a2a6368a94a89e3f43d, 0x68d191a346368d14a8a03f43d,
  0x68d991a366368d94a8ac3f43d, 0x68f991a3e6368f94a8c03f43d, 0x690191a406369014a8cc3f43d,
  0x9f22bdd1a5c8d214a8d23f8d201a34605000, 0x9f22be83e66746972a9852a390fea9806000, 0xa3b8fe8800546d,
  0xa62abc744786681706425291c0fc60636000, 0x9f22be16e78746971caa52a3d8fdb1236000,
  0x298aafab9aa99a05cab994a5283f000, 0x27c8afabb2a9d1a5caba94a8fe3f000,
  0x290aafabcaa9a4a5cabc149d9c3f000, 0x2af8aaabd94a0c23f472, 0x2b54aaad5149da03f474,
  0x2b5aaaad614a0d03f472, 0x2b60aaad7949c9c3f472, 0x2b66aaad9149ca03f472, 0x2ba0aaae814a17c3f474,
  0x2ba6aaae914a1843f474, 0x2bacaaaea94a9403f473, 0x2bb2aaaec14a1883f474, 0x2becaaafb14a9463f473,
  0x2bf2aaafc14a1903f474]

private def gotoRowsBlock9 : Array Nat := #[
  0x2bf8aaafd94a9623f473, 0x2bfeaaaff14a9643f473, 0x2c34aab0d14a9683f473, 0x2c3aaab0e14a9763f473,
  0x2c40aab0f94a9843f473, 0x2c46aab1114a9883f473, 0x290aaf692972a905286b8fea9006000,
  0x23885286c8fe38806486, 0x27c8af74697288252a658fe88206000, 0x28be52a690fe8be06488,
  0x9f22bdd1a5c8e194a9e23f000, 0xab614a9e43f48a, 0xa072bea7c5c000, 0xa1dabeaaa5c000,
  0xa2babdba05c000, 0xa76abeb285c000, 0xa782beb385c000, 0xa7a2beb7c5c000, 0xa7aabeb865c000,
  0xa7babebc85c000, 0xa7c2bebd25c000, 0xa7d2bec105c000, 0xa7dabec1a5c000, 0xa7fabec605c000,
  0xa802bec685c000, 0xa81abecee5c000, 0xa82abecf65c000, 0xa972bec6e5c000, 0xb3b2becf05c000,
  0x21f05c000, 0x2cf45c000, 0x21f45c000, 0x2cfe5c000]

/-- Laid out like the shift rows; the key is the nonterminal counted from 1 and the value is twice
the target state. -/
def gotoRows : Array (Array Nat) := #[
  gotoRowsBlock0, gotoRowsBlock1, gotoRowsBlock2, gotoRowsBlock3, gotoRowsBlock4, gotoRowsBlock5,
  gotoRowsBlock6, gotoRowsBlock7, gotoRowsBlock8, gotoRowsBlock9]

end TypeScriptRepl.Grammar
