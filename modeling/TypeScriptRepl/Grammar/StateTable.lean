/-! The parse states: the rows and the lexical mode of each. -/
namespace TypeScriptRepl.Grammar

private def stateWordsBlock0 : Array Nat := #[
  0x80401200a080400e008080400a007080400a006100308302c100208302b080102400f000000a000,
  0x80a026023080a02b02308090260230808029023080702602308060280230805026022080401200c,
  0x80402601608040310150804026014080402f0130804026012080402d0110804026010080b026023,
  0x80403e026080402601d080403601c080403501b080402601a080403401908040260180804033017,
  0x804050023180401a030080404e023080404c023080404a02308040420230804040023080403f023,
  0x804060023080405e023080405c023080405a0230804058023080405602308040540230804052023,
  0x80406e026180401d031080406c026080406a0260804068026080406602608040640260804062026,
  0x80407e026080407c026080407a02608040780260804076026080407402608040720260804070026,
  0x1804020039180401a038180401d037180401a036180401a035180401a034180401a033180401a032,
  0x280e116085180403a03d280e114084280e112083280d106082200c11006e200c11006d200c10f06c,
  0x280f1d808a180404403e180403c03d180403b03d280e106089280e11c088280e11a087280e118086,
  0x28111d808c28111dc08b28111da08b180404803e180404703e180404603e180404503e28101d808a,
  0x201210f07c28141e308f20131d809020131e108d28151e008a28141de08f201310f08d201210f07b,
  0x281a1de08f281a1e308f28191e607e28181dc07228171dc08b20161d809320161e509220161e4092,
  0x201f1e8097281e1e708b28191e6095281d1e607f281d1e607e281c1dc08b281a1d8094281b1da08b,
  0x28231d807428221e008a28211d809b28211ec09a28211eb09a28201ea08b201f1d8098201f1e9097,
  0x28251f109f281d1d80a128241d80a0281d1e609528241f009d28251ef09f281d1ee09528241ed09d,
  0x28231d80a728231d80a628231e008a28231d80a528231d80a4180408204128231d80a328251d80a2,
  0x1804089048180408504428231d80ac28231d80ab28231d80aa28231d80a928231d808a28231d80a8,
  0x180409a05f180409805c180409605918040940561804092054180408e051180408c04e180408a04b,
  0x382a1f60e230291f50e138281f40e038271f30dd30261f20dc18040a206818040a0065180409e062,
  0x403232816940313281681030328167302f1fb0ee302e1fa0ed302d1f90eb302c1f80e8302b1f70e5,
  0x103632a16f08040bc079103532916c08040b807808040b40781034328167100232816b103332816a,
  0x103b328173103a328172103932816b1038328171403732817008040c507a08040c407a08040c0079,
  0x384000a7d4383f01a7d3383e01a699383e01a69808040ce0c908040cd0c9103d32816b103c328174,
  0x8040d10d108040d10d008040d10cf08040d50ce08040d30cd08040d10cc08040d10cb08040cf0ca,
  0x384500a000384400a7d5384300a00008040d90af384200a000384100a00008040d70af08040d10d2,
  0x384b00a7db384a00a7da08040d10ef384900a7d9384800a7d8384700a7d7384700a7d6384600a000,
  0x385200a000385100a000385000a7e1384f00a7e0384e00a7df384d00a7de384d00a7dd384c00a7dc,
  0x8040db0b208040db0b108040db0b0385700a000385600a000385500a000385400a000385300a7e2,
  0x85a0e30f008040e10bb08040df0b808591fc15648581fc15608040dd0b708040db0b408040db0b3,
  0x285d00a69a285c00a69a08040e90bb085a0e30d408040e70be085a0e30d3085b1fd15708040e50bd,
  0x8041200c208621ff159080411e0c108040eb0f208611fe158286000a69b285f00a69b085e1040f1,
  0x86220215c086220115b086220015a080412a0c708041280c608041260c508041240c408041220c3,
  0x8040ed10508631380f6080410a0f508041080f408041060f3086220515f086220415e086220315d,
  0x8040f810c08040f610b08040f410a08040f610908040f410808040f210708040f0106080410c0f1,
  0x80410011408040fe11308040fc11208040f411108040fb11008040f910f08040f210d086413a0f7,
  0x8041320fc08041300f9080412e0fb08041120fa080412c0f908041060f8480413b0d70804102115,
  0x804145101080414310008041410ff080413f0fe080413d0fd08042060da08041360f908041340f9,
  0x80415311a0804151119080414f118080414d117080414c116080414b10408041491030804147102,
  0x80415e11a080415c117080415b117080415a117080415911c0804157117080415611a0804154117,
  0x80416e118080416c118080416a1180804168119080416611e08041641180804162118080416011a,
  0x80417d120080417c11f080417a11f080417811f080417611f080417411f080417211f0804170118,
  0x80418811a0804186120080418512008041841200804183120080418211a0804180120080417f118,
  0x8041961220804195122080419412108041921210804190121080418e121080418c121080418a121,
  0x8041a212308041a0123080419e123080419c123080419a122080419912208041981220804197122,
  0x8041b212408041b012408041ae12408041ac12408041aa12408041a812408041a612308041a4123,
  0x8041c212608041c012608041be12508041bc12508041ba12508041b812508041b612508041b4125,
  0x8041d212708041d012708041ce12708041cc12708041ca12608041c812608041c612608041c4126,
  0x80420b116080420a11608042091160804208129080420711608041ff11608041d612708041d4127,
  0x80421212e08042111160804210116080420f116080420e12d080420d12b20650a73ca080420c116,
  0x80421a1160804219116080421811608042171160804216116080421511608042141160804213116,
  0x804222116080422112f0804220116080421f116080421e116080421d116080421c116080421b116,
  0x80422911808041fd13008042281160804227116080422611a080422511608042241160804223116,
  0x8042311180804230118080422f116080422e11a080422d116080422c131080422b11a080422a11a,
  0x8042391180804238118080423711808042361180804235118080423411808042331180804232118,
  0x8042411180804240118080423f118080423e118080423d118080423c118080423b118080423a118,
  0x80424711808041fe118080424611808041ff1320804245118080424411808042431180804242118,
  0x8041fd13808041fc13708041fd13620650a83cc080424913508041fe134080424813320650a83cb,
  0x804250131080424f131080424e131080424d131080424c131080424b133080424a13b08041fc139,
  0x804258131080425713108042561310804255131080425413108042531310804252131080425112e,
  0x80425f131080425e131080415912f080425d131080425c131080425b131080425a1310804259131,
  0x80426611a080426511a080426411a080426311a080426213d0804261131080426011a08041fe13c,
  0x80426e11a080426d11a080426c11a080426b11a080426a11a080426911a080426811a080426711a,
  0x80427611a080427511a080427411a080427311a080427211a080427111a080427011a080426f11a,
  0x80427b133080427a14108041fc13f080427911a08041fc11a080427811a080420013e080427711a,
  0x80428313308042821330804281133080428012e080427f133080427e133080427d133080427c133,
  0x80428b133080428a133080428913308042881330804287133080428613308042851330804284133,
  0x80429213d080429113d0804290135080428f13308041fc142080428e133080428d133080428c133,
  0x80429a13d080429913d080429813d080429713d080429613d080429513d080429413d080429313d,
  0x8042a213d08042a113d08042a013d080429f13d080429e13d080429d13d080429c13d080429b13d,
  0x8042a712e08042a6146080420214408042a513d08041fd13d08042a413d080420114308042a313d,
  0x8042af11908042ae11908042ad11908042ac11908042ab11908042aa11908042a911908042a8119,
  0x8042b711908042b611908042b511908042b411908042b311908042b211908042b111908042b0119,
  0x8042bd149080420314708042bc119080420211908042bb11908042ba11908042b911908042b8119,
  0x8042c512e08042c412e08042c312e08042c212e08042c112e08042c012e08042bf12e08042be12e,
  0x8042cd12e08042cc12e08042cb12e08042ca12e08042c912e08042c812e08042c712e08042c612e,
  0x80420414a08042d312e080420312e08042d212e08042d112e08042d012e08042cf12e08042ce12e,
  0x8042db12f08042da12f08042d912f08042d812f08042d712f08042d612f08042d512e08042d414c,
  0x8042e312f08042e212f08042e112f08042e012f08042df12f08042de12f08042dd12f08042dc12f,
  0x8042ea12f080420412f08042e912f08042e812f08042e712f08042e612f08042e512f08042e412f,
  0x8042f213508042f113508042f013508042ef13508042ee13508042ed13508042ec12e08042eb14e,
  0x8042fa13508042f913508042f813508042f713508042f613508042f513508042f413508042f3135,
  0x8043011350804205135080430013508042ff13508042fe13508042fd13508042fc13508042fb135,
  0x8042011330804205151080430611a080430513108043041310804200131080430312e0804302150,
  0x80430e12e080430d155080430c12e080430b153080430a12f080430912e08043081190804307133,
  0x20670a73d020670a73cf40660ae3e340660ae3e240660ad3e14066400219406640021840663ff217,
  0x406640024c406640025b406640024b40663ff25a40663ff24a4066400249406640024840663ff247,
  0x86d00a000086c00a000086b00a00040680ad3e7086a00a000086900a00040680ad3e6406640025c,
  0x40720c83e94071110500407011050040720ad3e8407110f4ff407010f4ff086f00a000086e00a000,
  0x40763ff32c40683ff2bd107543e32b107543e32a107443d329107343d32940711105014070110501,
  0x107a4412c0107943e29a4078440332407844033140683ff2be40763ff32f107743e32a100d43f32e,
  0x487f00a7e34072443338087e00a69c107d43e32a287c442336287c442335107b43f333107b43f32e,
  0x407244333d407244333c407244333b407244333a107a44133910814412c110814412c0488000a7d4,
  0x488800a7e5488700a000488600a7e4488500a000488400a000488300a000088200a000087f00a000,
  0x108c43d29c108b43d329108a445344108a445343108144134110894443401081441339108944433f,
  0x108c43d349108c43d348108c43d347108c43d346088e01d69e088e01d69d088d00e7e6108c43d345,
  0x50040a7162088f00a000108c43d34e108c43d34d108c43d34c108c43d34b108c43d329108c43d34a,
  0x489600a7d9489500a7d8489400a7d7489400a7d6089300a000489200a69f489100a7d5089000a7e7,
  0x89d00a000489c00a7e0489b00a7df489a00a7de489a00a7dd489900a7dc489800a7db489700a7da,
  0x50040aa16450040a816348a200a00048a100a00008a000a000089f00a000088e01d7e8089e00a000,
  0x8a700a00008a600a00008a400a00008a500a00008a400a00008a300a00050040ad16650040ab165,
  0x8af00a00008ae00a00008ad00a00008ac00a00008ab00a00008aa00a00008a900a00008a800a000,
  0x8b700a00008b600a00008b500a00008b400a00008b300a00008b200a00008b100a00008b000a000,
  0x8be00a00008bd00a00008bc00a00008bb00a00008ba00a00008b900a00008b800a000088d00a000,
  0x8c200a00008c200a00008c100a00008bf00a00008c000a00008bf00a00008bf00a00008ad00a000,
  0x8c900a00008c800a00008c700a00008c600a00008c500a00008c400a00008c300a00008c200a000,
  0x8ce00a00050040ae17508cd00a00008cd00a00008cd00a00008cc00a00008cb00a00008ca00a000,
  0x8d300a00008d200a00008d200a00008d200a00008d100a00008d000a00008cf00a00008cf00a000,
  0x8d400a00008d400a00008d600a00008d400a00008d500a00008d400a00008d400a00008d300a000,
  0x8db00a00008db00a00008db00a00008da00a00008da00a00008d900a00008d800a00008d700a000,
  0x8e100a00008e000a00008df00a00008de00a00008dd00a00008dd00a00050040ae17608dc00a000,
  0x8e600a00008e500a00008e500a00008e400a00008e400a00008e300a00008e200a00008e100a000,
  0x8ec00a00008ec00a00008eb00a00008eb00a00008ea00a00008e900a00008e800a00008e700a000,
  0x8f000a00008ef00a00008ef00a00008ef00a00008ee00a00008ee00a00008ed00a00008ed00a000,
  0x8f600a00008f600a00008f500a00008f400a00008f300a00008f200a00008f100a00008f100a000,
  0x50040ae17850040ae17708fb00a00008fa00a00008f900a00008f800a00008f700a00008f600a000,
  0x50040c819250040ae19150040ae17e50040ae17d50040ae17c50040ae17b50040ae17a50040ae179,
  0x8ff00a00008ff00a00008ff00a00008fe00a00008fd00a00008fc00a00050040ca19250040b0192,
  0x500431b1995004315198090100a0005004314198090000a000500431119508ff00a00008ff00a000,
  0x5004324199500432319e500432219e500431f195500431e195500431d19c500431819c500431c199,
  0x590300a000590200a000500432b1a2500432c1a1500432b1a050043271b1500432619f500432519f,
  0x500432b1a9500432b1a8500432e1a7500432b1a6500432b1a5500432d1a4500432b1a3590400a000,
  0x50043311b2500432b1b0500432b1af500432b1ae50043301ad500432b1ac500432b1ab500432f1aa,
  0x50043371b450043361b350043271b250043351b250043341b250043281b250043331b250043321b2,
  0x500433f1b6500433e1b2500433d1b2500433c1b2500433b1b2500433a1b250043391b550043381b5,
  0x50043461b750043451b250043441b250043431b250043421b250043411b2500432b1b250043401b5,
  0x50043531b550043521b5500434c1b5500434b1b5500434a1b250043491b250043481b250043471b2]

private def stateWordsBlock1 : Array Nat := #[
  0x500435b1b4500435a1b250043591b250043581b250043571b250043561b250043551b250043541b2,
  0x50043631b450043621b450043611b450043601b2500435f1b8500435e1b8500435d1b4500435c1b4,
  0x500436b1b5500436a1b450043691b450043681b450043671b450043661b950043651b950043641b4,
  0x50043721b550043711b550043701b5500436f1b5500436e1ba500436d1ba500432a1b5500436c1b5,
  0x500437a1bb50043791bb50043781b550043771b550043761b550043751b550043741b450043731b4,
  0x50043821bb50043811bb50043801bb500437f1bb500437e1bb500437d1bc500437c1bc500437b1bb,
  0x500438a1bd50043891bd50043881b950043871b950043861b950043851bb50043841bb50043831bb,
  0x50043921b950043911b950043901b9500438f1b9500438e1b9500438d1b9500438c1b9500438b1b9,
  0x500439a1bb50043991bf50043981b250043971be50043961be50043951b750043941b750043931b7,
  0x50043a21b750043a11b750043a01b7500439f1b7500439e1b7500439d1b7500439c1b7500439b1b7,
  0x50043aa1b250043a91bb50043a81bb50043a71b250043a61b550043a51b550043a41b750043a31b7,
  0x50043b21b650043b11b650043b01b550043af1b650043ae1b650043ad1b550043ac1b250043ab1b2,
  0x50043ba1b650043b91b650043b81b550043b71b250043b61b650043b51b650043b41b650043b31b6,
  0x50043c11c050043c01c050043291b650043bf1b650043be1b650043bd1b250043bc1b250043bb1b2,
  0x50043c91b650043c81b650043c71b650043c61b650043c51b650043c41b250043c31b650043c21b2,
  0x600434f18b600434f18a600434f189600434f188600434f18760043511856004350183600434f181,
  0x90600a00040663f145321050a745240663f0451600434f190600434f18f600434f18e600435118c,
  0x21050a845840663f245740663f345621050a845540663f2454090800a000090700a000090700a000,
  0x40683f046a107541249f107541249e61093cc1d561093cb1d5107441249d107341249d40663f3459,
  0x210a0a746e406841346d40764124a2107741249e100d4124a140764134a040683f146c210a0a746b,
  0x290c00a000107a412470290b0aa45b107941245a406610f4a540784124a440784134a340683f146f,
  0x291200a000291100a000291000a000290f00a000291000a000290f00a000290e00a000290d00a000,
  0x411310f502107d41249e287c4124aa287c4124a9107b4124a840661104a740661104a6107b4124a1,
  0x291500a000107a4124ae40723f04ad1081412471108141247040723f14ac21140a74ab406610f4ff,
  0x4066110501411311050440724144af21140ab4ab40661105004113110503411732f472291600a000,
  0x411d344505411c330475111b318474091a3315c5291900a7e9111833047340724124b140724134b0,
  0x108a4124b6108a4124b510814124b410894124b310814124ae10894124b2411f330476111e318506,
  0x92300a000288c0ca45d4122318508112131850709203117ea108c4124b7108c41245c108b41249d,
  0x1129330473412800a6a111273304771126318509112500a6a0107400a69b112400a6a0107300a69b,
  0x108c4124bb292d330479108c4124ba108c4124b9412c330478112b00a6a1412a31850a108c4124b8,
  0x406800a50b108c4124c0112e330477108c4124bf108c4124be108c4124bd108c41249d108c4124bc,
  0x112500a7e9112400a7e9093400a0001133318507413200a6a3093100a000113000a69b092f3116a2,
  0x413c00a000413b00a000413a31850c413900a000413800a00011373185061136318509113500a69a,
  0x114133047c114033047b113f33047a107500a6a5107500a6a1293e31850e413d00a6a4406800a50d,
  0x407600a6a3094600a000406800a5c7414500a5c6114400a6a7114400a6a61143330473114233047d,
  0x414c00a000414b00a000107700a6a1414a00a000094900a000114800a6a9100d00a69a414700a6a8,
  0x415200a000095100a000115000a69b114f33047d414e00a000414d00a000414c00a000414d00a000,
  0x415900a6ab115800a000115700a000115600a6a1115500a6a1115400a69a407600a6aa415300a000,
  0x295c00a6ae407800a6ad407800a6a4406800a5c9414500a5c8414700a6ac415b00a7e9115a318506,
  0x414700a7ec11613185111160318510415e00a6b0115f31850f114400a7eb415e00a6af115d33047d,
  0x116500a514107a00a5cb116400a513107900a512116300a7eb116200a6a6407200a5ca114800a7ed,
  0x416c00a000416b00a000116a00a6a1116900a000116800a0001167318507107b00a69a116600a6a9,
  0x116e00a6b4116600a6b3407200a5cc116d00a6a6107d00a6a1287c00a6b2287c00a6ae107b00a6b1,
  0x108100a5cb116400a5cd50043ce1c3297100a6b8297100a6b7117000a6b6116f00a6b5415e00a7ee,
  0x117500a000117400a69b117300a6b9107a00a6b5116600a7ed117200a515108100a5ce117200a514,
  0x407200a6ba407200a6ab50043de1c850043dd1c750043dc1c650043db1c550043da1c4117600a000,
  0x108900a6bd108100a6b5108900a6b4117300a7f0297100a7ef116d00a7eb417700a6bc417700a6bb,
  0x117900a6c0117800a517108c00a516108b00a69b417700a7f1108a00a6bf108a00a6b6108100a6be,
  0x50043df1d6117800a6c6108c00a6c5117b00a6c4117b00a6c3117a00a6c2117900a6c1117a00a6b9,
  0x50043df1dc50043df1db50043df1da50043df1d9117800a6c8108c00a6c750043df1d850043df1d7,
  0x50043df1e450043df1e350043df1e250043df1e150043df1e050043df1df50043df1de50043df1dd,
  0x108c00a6cd117800a6cc108c00a6cb117800a6ca108c00a6c950043df1e750043df1e650043df1e5,
  0x117800a6d4108c00a6d3117800a6d2108c00a6d1108c00a69b117800a6d0108c00a6cf117800a6ce,
  0x117a00a7f0117900a7f2117800a6d8108c00a6d7117800a5cf117c00a7e9117800a6d6108c00a6d5,
  0x117800a7f9117800a7f8117800a7f7117800a7f6117800a7f5117800a7f4117b00a7f3117800a6a0,
  0x50043e223350043e123350043df23350043e0233117800a7fd117800a7fc117800a7fb117800a7fa,
  0x497e0ab3d3497e0aa3d2517d3d423650043d421c50043d321b50043e523350043e423350043e3233,
  0x50043d422250043d7221497e0aa3d550043d422050043d621f497e0aa3d450043d421e50043d521d,
  0x8043d125508043d125308043d1251317f0ad47e08043d024f50043d422450043d8223497e0aa3d6,
  0x31833335d131833325d049820aa3e5398100a000497e0aa3e4398000a00008043d125908043d1257,
  0x398900a7fe318800a000318700a000318600a00031850ad51809093d928831843455d331833345d2,
  0x319000a800318f00a000318e00a00031843456da318d00a000318c00a6d9318b3467ff318a00a000,
  0x319800a0003197012803319600e80331950ad802319400a000319300a000319200a800319100a801,
  0x319f00a6dd319e00a000319d00a000399c020804399b0206dc399b0206db319a00a5d4319900a5d4,
  0x31a503a80531a403a6df31a403a6de31a300a00031a200a00031a200a00031a100a00031a000a000,
  0x31a700a000319100a00031aa00a80731a900a00031a800a806319000a00031a700a00031a600a000,
  0x31b100a80a31b000a00031af00a00031ae00a00031ad00a80931ad00a80831ac00a00039ab00a7fe,
  0x31b900a00031b800a80731b700a80b31b600a80731b500a5d431b400a00031b300a00031b200a000,
  0x31bc00a00031bd00a00031bc00a00031bd00a00031bc00a00031bb00a00031b900a00031ba00a000,
  0x31c300a00031c200a00031c100a00031c000a00031bf00a00031bf00a00031be00a00031bd00a000,
  0x31c700a00031c300a00031c200a00031c300a00031c200a00031c600a5d431c500a00031c400a000,
  0x31cb00a00031cc00a00031cb00a00031cc00a00031cb00a00031ca00a00031c900a00031c800a80a,
  0x31cb00a00031cc00a00031cb00a00031cc00a00031cb00a00031cc00a00031cb00a00031cc00a000,
  0x31d200a5d431d100a00031d000a00031cf00a5d431ce00a00031cd00a00031cd00a00031cc00a000,
  0x31d400a00031d400a00031d400a00031d400a00031d400a00031d400a00031d400a00031d300a000,
  0x31d800a00031d700a00031d600a00031d600a00031d500a00031d400a00031d400a00031d400a000,
  0x31d800a00031d800a00031d800a00031d800a00031d800a00031d800a00031d800a00031d800a000,
  0x31de00a7e939dd00a80c31dc00a5d431db00a5d4319200a00031da00a5d431d900a00031d800a000,
  0x31e400a00031e300a00031e200a00031e100a00031e000a00031de00a000497e3ec25e39df0ae47f,
  0x31ea00a00031ea00a00031e900a00031e800a00031e700a00031e600a00031e500a00031e300a000,
  0x31ee00a00031ef00a00031f000a00031ef00a00031ee00a00031ed00a00031ec00a00031eb00a000,
  0x31f700a00031f600a00031f500a00031f400a00031f300a00031f200a00031f100a00031ea00a000,
  0x31fd00a000497e3ed25f31fc00a00031fb00a00031fa00a00031f900a00031f900a00031f800a000,
  0x320200a000320100a000320000a00031ff00a00031fe00a00031fe00a00031f600a00031f600a000,
  0x320900a000320800a000320700a000320600a000320600a000320500a000320400a000320300a000,
  0x321100a000321000a000320f00a0003a0e00a0003a0d00a000320c00a000320b00a000320a00a000,
  0x3a1500a000497e3ec262497e3ec261497e3ec260321400a000321300a000321200a00031dd00a000,
  0x321900a000321800a000497e3ec264497e3f72633a1700a0004a163f629f4a163f529e4a163f429d,
  0x497e3f82653a1e00a0003a1d3375d73a1d3365d63a1d3355d5321c00a0003a1b00a80d3a1a00a000,
  0x32230a76e0497e3ec268497e3f72673a223475d83a2100a80e3a2000a0003a1f00a000497e3ed266,
  0x322b0a734f322a0a744632290a73ea32280a723732270a723732260a723732250a723732240a7237,
  0x32330a73d732320a742932310a742832300a73ab322f0a73b5322e0a73bf322d0a7403322c0a72c2,
  0x32390a723732380a723732370a723732370a723732360a723732350a723732280a723732340a72a0,
  0x323d0a7237323c0a743c323b0a745e497e3ec26c497e3f726b497e3ec26a497e3f7269323a0a7237,
  0x3a440c86e13a430c84c23a420c82383a410c843d30040a71cb3a400c845f3a3f0ae519323e0a74c1,
  0x3a4c0c84473a4b00a0003a4a0c83eb3a490c82383a480c82383a470c82383a460c82383a450c8238,
  0x3a540c842b3a530c842a3a520c83ac3a510c83b63a500c83c03a4f0c84043a4e0c82c33a4d0c8350,
  0x3a590c82383a590c82383a580c82384a164012a23a570c82383a490c82383a560c82a13a550c83d8,
  0x3a5e0c82383a5d00a00049823ec2a44a164022a33a5c00a000497e3f72893a5b0c82383a5a0c8238,
  0x3a6500a0006a6400a8103a223476e3326300a7e93a6201a6e23a6134880f3a6000a000325f00a7e9,
  0x3a6c00a8113a6b00a7eb326a00a000326900a000326800a0003a6700a000497e3f828a3a6600a000,
  0x30040aa1cd32710a7237497e3f728b30040a81cc3a7000a0003a6f00a0003a6e00a8113a6d00a812,
  0x3a760c823a3a750c823a3a740c823a3a730c823a3a720c86e4497e3f728d30040ab1ce497e3f728c,
  0x3a7e0c83b73a7d0c83c13a7c0c84053a7b0c82c43a7a0c83513a790c84483a780c83ec3a770c823a,
  0x3a850c823a3a840c823a3a770c823a3a830c82a53a820c83d93a810c842d3a800c842c3a7f0c83ad,
  0x3a8c0c843e3a8b0c8460328a00a7eb3a890c823a3a880c823a3a870c823a3a860c823a3a860c823a,
  0x3a9000a00038040c81d338040c81d208043e626e3a8f0ae81338040c81d13a8e0c84c33a8d0c823a,
  0x497e4032c53a960208144a9500a0004a163f42a60a943ff26f3a9300a0003a9200a0003a9101d814,
  0x3a9e0c81e83a9d00a5d93a9c00a7ec3a9b00a0003a9a00a5d93a9900a000329800a7e9329700a000,
  0x497e4062c84a164152a84a164052c74a164042a74a164042c63aa10c82383aa00c82383a9f0c8238,
  0x497e4082ca49823ec2ab49823f72aa4a164162a94a164072c932a400a00032a300a00032a200a000,
  0x3a6c00a0003aab00a0003aaa00a00032a90a723b32a80a743f32a70a74613aa600a7d43aa50c81e9,
  0x32b10a723b32b00a76e532af0a74c43aab00a0003a6d00a0003aae00a8163aad00a0003aac00a815,
  0x3ab700a0003ab600a0003ab500a8183ab500a8173ab400a00032b30a723b0a9440027032b20a723b,
  0x3abf00a0003abe00a0003abd00a0003abc00a8193abb00a0003aba00a00032b900a7ed32b800a000,
  0x3ac600a0003ac400a0003ac500a0003ac400a0003ac300a8163ac200a81a3ac100a8163ac000a5d9,
  0x32ce0a73c232cd0a740632cc0a72cb32cb0a735232ca0a744932c90a73ed32c80a723b32c70a723b,
  0x32d50a723b32c80a723b32d40a72ac32d30a73da32d20a742f32d10a742e32d00a73ae32cf0a73b8,
  0x3adc00a0003adb00a0003ada00a00032d90a723b32d80a723b32d70a723b32d70a723b32d60a723b,
  0x3ae000a0003adf00a0003ade00a0003add00a6dd3adc00a0003adb00a0003adc00a0003adb00a000,
  0x3ae700a0003ae600a0003ae500a0003ae400a0003ae300a0003ae200a0003ae200a0003ae100a000,
  0x3aeb00a0003aea00a0003ae600a0003ae500a0003ae600a0003ae500a0003ae900a5d93ae800a000,
  0x3af000a0003aef00a0003af000a0003aef00a0003aee00a0003aed00a0003aea00a0003aec00a819,
  0x3af000a0003aef00a0003af000a0003aef00a0003af000a0003aef00a0003af000a0003aef00a000,
  0x3af500a0003af400a5d93af300a0003af200a0003af200a0003af100a0003af000a0003aef00a000,
  0x3afb00a0003afb00a0003afb00a0003afa00a00032f90a723b3af800a5d93af700a0003af600a000,
  0x3afc00a0003afb00a0003afb00a0003afb00a0003afb00a0003afb00a0003afb00a0003afb00a000,
  0x3aff00a0003aff00a0003aff00a0003aff00a0003aff00a0003afe00a0003afd00a0003afd00a000]

private def stateWordsBlock2 : Array Nat := #[
  0x3b0200a80e3b0100a5d93b0000a0003aff00a0003aff00a0003aff00a0003aff00a0003aff00a000,
  0x3a6e00a0003b0700a000330600a0003b0500a6e6330400a0000a944002723b030c823a0a94400271,
  0xa944002743b0d00a0003b0c00a000330b00a000330a00a0000a944002733b0900a5d93b0800a5d9,
  0x3b1400a7ee08043e72763b1300a7e93b1200a0003b1100a0003b1000a000330f00a000330e00a000,
  0x331c0a744a331b0a73ee331a0a723d33190a723d33180a723d33170a723d33160a723d33150a76e7,
  0x33240a743133230a743033220a73af33210a73b933200a73c3331f0a7407331e0a72cc331d0a7353,
  0x332a0a723d33290a723d33290a723d33280a723d33270a723d331a0a723d33260a72ad33250a73db,
  0x3b1300a000333100a7eb33300a74c5332f0a723d332e0a7440332d0a7462332c0a723d332b0a723d,
  0x3b3800a0003b3700a00030040a71eb333600a7ed333500a0003b3400a0003b3300a0003b3200a7ec,
  0x333e0a723730040a71ec3b3d00a0003b3c00a0003b3b0c81e83b3900a0003b3a00a0003b3900a000,
  0x3b4200a000334100a000334100a00030040b01ed0a943ff2780a943ff2773b4000a0000b3f3e82af,
  0x497e4182ce734700a81b3b4600a0003b4500a0003b4400a0003b4400a000334331b23d4a164172cd,
  0x3b4c0c82383b4b00a00030040a81ef3b4a00a0003b4900a00030040b01ee334800a000497e4032cf,
  0x3b4f00a0003b4e00a0003b4d00a00008043e927a3b4400a0003b4a00a0003b4b00a00030040b01f0,
  0x3b5300a000335200a000335200a000335200a000335200a00030040b01f13b510c82383b5000a000,
  0x3b5800a0003b5700a0003b5600a0003b5500a0004a1641a2d24a164042d14a164192d033540a7237,
  0x335d00a000335c00a6dd497e4062d4497e41b2d33b5b00a0003b5a00a0003b5900a0003b5800a000,
  0x3b6100a0003b6100a0003b5500a0003b5500a0003b6000a00030040b01f2335f00a7e9335e00a000,
  0x336400a00030040b01f730040a71f630040a71f530040a71f430040b01f33b6300a0003b6200a000,
  0x3b6500a0004a1641f2d84a1641e2d74a1641d2d64a1641c2d5336400a000336400a000336400a000,
  0x3b6900a0003b6800a0003b6700a0003b6600a000497e4082dc49823f72db497e4212da497e4202d9,
  0x4a164232de4a164222dd336b00a00030040a71fa30040a71f930040a71f83b6a00a0003b6a00a000,
  0x3b6d00a0003b6c00a000497e4292e4497e4282e3497e4272e24a164262e14a164252e04a164242df,
  0x497e42d2e8497e42c2e74a1642b2e64a1642a2e530040a71fe30040a71fd30040a71fc30040a71fb,
  0x3b7100a7d64a1642f2ea337000a7ed3b6f00a7d50a9440027c0a9440027b4a1642e2e9336e00a000,
  0x3b7700a7dc3b7600a7db3b7500a7da4a164302eb3b7400a7d9337300a7eb3b7200a7d83b7100a7d7,
  0x3b7b00a0000a9440027e0a9440027d3b7a00a7e03b7900a7df4a164312ec3b7800a7de3b7800a7dd,
  0x3b8200a81d3b8100a0003b8000a0003b7f00a81c3b7e00a0003b7e00a000337d00a000337c00a7eb,
  0x738700a81b0a944002800a9440027f3b8600a0003b8500a81f3b8400a0003b8400a0003b8300a81e,
  0xa94400283338c00a000338b00a0000a944002820a94400281338a00a0003b8900a7f1338800a000,
  0x339100a0004b8e10f5db4b8d10f5db339000a000338f00a0004b8e1105da4b8d1105da0a94400284,
  0x4b8d1105de4b8e1105dd4b8d1105dd4b8e1105dc4b8d1105dc3b9400a0003b9300a000339200a000,
  0x3b9a0c823e3b990c823e3b980c823e3b970c823e3b960c823e3b950c86e830040aa1ff4b8e1105de,
  0x3ba00c83c43b9f0c84083b9e0c82ed3b9d0c835430040b02013b9c0c844b30040ab2003b9b0c83ef,
  0x3ba70c823e3b9a0c823e3ba60c82b03ba50c83dc3ba40c84333ba30c84323ba20c83b03ba10c83ba,
  0x30040b02033bac0c823e30040b02023bab0c823e3baa0c823e3ba90c823e3ba90c823e3ba80c823e,
  0x3bb00c84c63baf0c823e3bae0c84413bad0c846330043152073004314206300431120530040ca204,
  0x497e4352f130040a720b497e4342f030040a720a30040a7209497e4332ef30040a7208497e4322ee,
  0x33b400a7eb0bb33ff2b138040c821030040b020e3bb200a7ee30040b020d30040b020c33b100a7ef,
  0x33b80a7237497e41835608043eb2864a1641735533b70a723733b600a5cd0a943ff28e0bb53ea2b3,
  0x4a1640935a33b90a723732a50a72370a943f928f38040c82114a1641a3594a164363584a16401357,
  0x4a1642f35c33bd0a723b0a944002904bbc00a0004a1642e35b3bbb00a00033ba00a7ed38040c8212,
  0x4a16431363497e4203624a164373614a1641c3604a1643035f497e41b35e4a1641935d33be0a723b,
  0x33c100a0006bc000a8100a944002913bbf00a000497e42c3674a1642a366497e4273654a16422364,
  0x33c800a00033c700a00033c600a0003bc500a0003bc400a00033c300a0000a9440029233c200a000,
  0x3bcd00a0003bcc00a0003b8900a0000a9440029433cb00a00033ca00a6dd33c900a7eb0a94400293,
  0x497e433369497e43236833d10a723738040c821438040c821333d000a00033cf00a00033ce00a000,
  0x33d70a723f33d60a723f33d50a723f33d40a723f33d30a723f33d20a76e9497e43536b497e43436a,
  0x33df0a73b133de0a73bb33dd0a73c533dc0a740933db0a72f233da0a736c33d90a744c33d80a73f0,
  0x33e60a723f33e50a723f33e40a723f33d70a723f33e30a72b433e20a73dd33e10a743533e00a7434,
  0x33ed0a724033ec0a724033eb0a724033ea0a76ea33e90a723f33e80a723f33e70a723f33e60a723f,
  0x33f50a73c633f40a740a33f30a72f333f20a736d33f10a744d33f00a73f133ef0a724033ee0a7240,
  0x33fc0a724033ef0a724033fb0a72b533fa0a73de33f90a743733f80a743633f70a73b233f60a73bc,
  0x34030a723b34020a723b34010a724034000a724033ff0a724033fe0a724033fe0a724033fd0a7240,
  0x340b0a74c8340a0a724034090a744334080a746534070a74c734060a723f34050a744234040a7464,
  0x34130a724234120a724234110a724234100a7242340f0a7242340e0a76eb340d00a7f2340c00a7eb,
  0x341b0a73b3341a0a73bd34190a73c734180a740b34170a72f434160a736e34150a744e34140a73f2,
  0x34220a724234210a724234200a724234130a7242341f0a72b6341e0a73df341d0a7439341c0a7438,
  0x34290a74c934280a724234270a744434260a746634250a724234240a724234230a724234220a7242,
  0xc2d3ff2f530040a722830040a72260bb33ff2b80bb33ff2b7342c00a7f3342b00a7ef342a00a7f0,
  0x343200a000343100a0000a943f92960a943f9295343000e8034c2f4012f64c2f40136f342e00a000,
  0x343400a000343300a000343300a0004c2f4382f84c2f40a3714c2f4092f74c2f409370343200a000,
  0x343800a7f04c3700a8204c3600a820343500a0004c2f43a2fa4c2f40c3734c2f4392f94c2f40b372,
  0xc4000a0000c3f00a000343e00a000343d00a000343c00a000343b00a000343a0a7242343900a7e9,
  0x30040a722a30040a7229344600a000344500a000344400a000344300a000344200a0000c4100a000,
  0x344e0a744f344d0a73f3344c0a7244344b0a7244344a0a724434490a724434480a724434470a76ec,
  0x34560a743b34550a743a34540a73b434530a73be34520a73c834510a740c34500a72fb344f0a7374,
  0x345c0a7244345b0a7244345b0a7244345a0a724434590a7244344c0a724434580a72b934570a73e0,
  0x30040a722c34620a74ca34610a724434600a7445345f0a746730040a722b345e0a7244345d0a7244,
  0x300431c24530040a723230040a72313c6300a7f130040a723030040a722f30040a722e30040a722d,
  0x4c2f43e3764c2f43d3750a943f92ba0c2d3ff2fe0c2d3ff2fd0c6510f5db0c6410f5db0bb33ff2fc,
  0x4c2f44637e4c2f44537d4c2f44437c4c2f44337b4c2f44237a4c2f4413794c2f4403784c2f43f377,
  0xc651105dd0c641105dd4c2f44a3844c2f4493834c2f43c3824c2f43b3814c2f4483804c2f44737f,
  0xc641105e06c6600a8100c651105df0c641105df0c651105da0c641105da0c651105dc0c641105dc,
  0x7c6b00a6ed346700a7f4346a00a7f3346900a7f0346800a7f2346700a5cf30040a72440c651105e0,
  0x7c7100a0007c7000a0007c6f00a0007c6e00a0007c6d00a0000c6c3385e1797d00a6ee0c2d3ff385,
  0x7c7900a0007c7800a0007c7700a0007c7600a0007c7500a0007c7400a0007c7300a0007c7200a000,
  0x347f0ae813346700a7f57c7e00a0007c7c00a8237c7d00a0007c7c00a8227c7b00a8217c7a00a000,
  0x346700a7fc346700a7fb346700a7fa346700a7f9346700a7f8346700a7f7346700a7f67c7b00a824,
  0xc653f96ef0c643f96ef517d00a000548300a0000c8240d2ff0c8100a8200c8000a820346700a7fd,
  0xc8240d3020c8240d3010c8240d300348601d814548500a000547b00a000548400a000548400a000,
  0xc8244c3060c8244c305080440e2980c8800a0000c8700a0000c8244b3040c8244b30308043f4297,
  0xc8244c3880c8241b35e08044012a20c8241935d0c8244b3870c8240d3860c8900a0000c8244d307,
  0xc824273650c8244e38a0c824223640c8244d3890c82420362080440f2bb0c824373610c8241c360,
  0xc824333690c824323680c8a3eb8250c8245138d0c8245038c0c8242c3670c8242a3660c8244f38b,
  0xc8245338f0c824313630c8243035f0c8242f35c0c8242e35b0c8245238e0c8243536b0c8243436a,
  0x8043ec30d08043fa30c080441130b080440330a080441030908040b03f508043ff30808040ad3f4,
  0x8043fb31308043fc31208040b03f708040c83f608043fb31108043fb31008043fb30f08043fb30e,
  0x8043f4319080440d3180c8b00a00008043ff31708040ca3f808043fb31608043fb31508043fb314,
  0x80441d32108043ec320080440631f080445431e080443631d080440431c080444b31b080440331a,
  0x8043fb3900804429328080445732708044083260804421325080445632408044553230804437322,
  0x804417355080440d38608043ff3850c8f00a0000c8e00a0000c8d00a0000c6c00a0000c8c00a000,
  0x804458393080443635808044013920804401357080441935d080444b387080441835608043f5391,
  0x80445a3960804437361080440935a0804409395080441c360080444c388080441b35e0804459394,
  0x804422364080444d3890804420362080445f39b080445e39a080445d399080445c398080445b397,
  0x8044643a108044633a0080446239f080446139e080446039d080444e38a080443e376080443e39c,
  0x8044693a6080442a366080444f38b080442736508044683a508044673a408044663a308044653a2,
  0x80443236808043f73aa080445138d080445038c080442c367080446c3a9080446b3a8080446a3a7,
  0x80443035f080442f35c080442e35b080441a359080445238e080443536b080443436a0804433369,
  0x5c9200a0005c9100a0005c9033a51c5c9033951b5c9033051a080400a3ce080445338f0804431363,
  0x5c9200a0005c9100a0005c9200a0005c9100a0005c9200a0005c9100a0005c9200a0005c9100a000,
  0x5c9300a0005c9300a0005c9300a0005c9300a0005c9200a0005c9100a0005c9200a0005c9100a000,
  0x5c9400a0005c9400a0005c9300a0005c9300a0005c9300a0005c9300a0005c9300a0005c9300a000,
  0x5c9400a0005c9400a0005c9400a0005c9400a0005c9400a0005c9400a0005c9400a0005c9400a000,
  0x5c9900a0005c9900a0005c9900a0000c983185e25c9700a6f15c9700a6dd0c963186f05c953ee450,
  0xc9c00a0000c9b00a0000c9c00a0000c9b00a0000c9d00a0000c9c00a0000c9b00a0000c9a00a000,
  0xca30246f20ca23498260ca100a00084a033c51f84a033b51e84a032f51d4c9f00a0004c9e00a000,
  0xca900a0000ca800a0000ca700a000880400a3f90ca600a0000ca600a0000ca500a0000ca400a827,
  0xcae00a0000cad00a0000cac00a0000c9700a0000ca800a0000cab00a0000caa00a8280ca400a000,
  0xcb400a0000cb400a0000cb400a0000cb300a0000cb200a8280cb100a8280cb000a0000caf00a000,
  0xcbb00a0000cba00a0000cb900a0000cb800a0000cb700a0000cb600a0000cb600a0000cb500a000,
  0xcbe00a0000cbd00a0000cbc00a0000cbc00a0000804475410080447440f080447340e080447240d,
  0x84c500a00084c400a0004cc33445e30cc200a0000cc100a0000cc100a0000cc000a0000cbf00a000,
  0x84c500a00084c400a00084c500a00084c400a00084c500a00084c400a00084c500a00084c400a000,
  0x84c600a00084c600a00084c600a00084c600a00084c500a00084c400a00084c500a00084c400a000,
  0x84c700a00084c700a00084c600a00084c600a00084c600a00084c600a00084c600a00084c600a000,
  0x84c700a00084c700a00084c700a00084c700a00084c700a00084c700a00084c700a00084c700a000,
  0x804479414080447841308044774120804476411880400a3fa94c833f52294c833e52194c833d520,
  0x80447f41a080447e419880400a3fc080447d418080447c417080447b416080447a415880400a3fb,
  0x880400a3fe0804485420080448441f080448341e080448241d880400a3fd080448141c080448041b,
  0x80400a4210ccb00a8294cca3d04810cc93ef480880400a402880400a401880400a400880400a3ff,
  0x4cd03d64864cd03d54850ccf00a8294cce4254cb4ccd3d44844ccd3d34834ccd3d14820ccc00a82a,
  0x4cd13ea48e4cd13e948d4cd13e848c4cd13e748b4cd03e648a4cd03d94894cd03d84884cd03d7487,
  0x4cd23f24964cd23f14954cd23f04944cd23ef4934cd23ee4924cd13ed4914cd13ec4904cd13eb48f,
  0x4cce4254ce08040124234cce4254cd080400e4224cc33446f44cd40266f34cce4264cc4cd33f3497,
  0xcd700a82b4cd64275230cd53184d00804029427080402842608040264254cce4254cf0804024424,
  0x4cda42b5274cdd42a5260cdc00a82b0cdb00a5e44cd64295254cda4285240cd900a82c0cd800a5e4,
  0x4ce242f52b4ce342e52a4cdd42d5294ce242c5280ce100a5e40ce000a5e40cdf00a5e40cde00a5e4]

private def stateWordsBlock3 : Array Nat := #[
  0x84e800a00084a000a6f584a000a6e64ce734b82d4ce60266f39ce534a5e50ce400a5e44ce343052c,
  0x4ceb00a0004cea00a0004cec00a0004ceb00a0004cea00a0004ce900a00084e800a00084e800a000,
  0x94f000a00094f100a00094f000a00084ef00a00084ee00a00084ed00a0004ceb00a0004cea00a000,
  0x94f000a00094f100a00094f000a00094f100a00094f000a00094f100a00094f000a00094f100a000,
  0x94f200a00094f200a00094f200a00094f200a00094f200a00094f100a00094f000a00094f100a000,
  0x94f300a00094f300a00094f300a00094f200a00094f200a00094f200a00094f200a00094f200a000,
  0x8043ef48094f300a00094f300a00094f300a00094f300a00094f300a00094f300a00094f300a000,
  0x4cf94325e64cf83f75304cf83f652f4cf83f552e4cf74315e64cf63f452e0cf50246f20cf431852d,
  0x4cfc4035304cfc4025304cfc4015304cfc3f952f4cfc3f852e0cfb00e8034cf74335e64cfa4255e7,
  0x4cfe4095304cfe4085304cfe4075304cfe4065304cfe40552e4cf94355e64cfd4345e64cfc404530,
  0x4d0040f5304d0040e5304d0040d5304d0040c52e4cfd4375e64cff4365e64cfe40b5304cfe40a530,
  0x4d0400a0004cd400a82e4d0300a0004d0143a5e64d024115304cff4395e64d014385e64d00410530,
  0x4d0900a0004d0900a0004d0800a0004d0700a82f4ce700a8304d0600a82f4d0500a0004d0500a000,
  0x497e1105de497e1105dd497e1105dc497e10f5db497e1105da9ce534a6f79d0b0286f64d0a00a000,
  0x4d0e00a0004ce600a82e4d0d00a0004cce4256f808043fd4685d0c33a5335d0c3395325d0c330531,
  0x4d1100a0004ce700a0004d1200a8314cd400a0004d0600a0004d1100a0004d1000a0004d0f00e803,
  0x4d1900a0004d1800a0004d1700a0004d1600a8324d1500a0004d1400a0004ca000a0004d1300a000,
  0x4d2100a0004d2000a0009d1f0286f64d1e00a0004d1d00a8314d1c00a8334d1b00a8314d1a00a5e8,
  0x4d2600a5e84d2500a0004d2400a0004d2300a0004d2300a0004d2200a0004d2100a0004d2100a000,
  0x4d2c00a0004d2b00a0004d2b00a0004d2a00a0004d0700a0004d2900a0004d2800a8324d2700a000,
  0x4d3400a0004d3300a0004d3200a5e84d3100a5e84d3000a5e84d2f00a0004d2e00a0004d2d00a5e8,
  0x94c800a6fa94c800a6f99d3934c8344d3800a5e84d3700a0004d3600a0004d3500a0004d3500a000,
  0x9d3f00a0009d3e00a0009d3d00a0009d3c00a000953b00a000953b00a000953b00a000953a00a000,
  0x8043fa4d10cf43185e9954100a000954000a0009d3e00a0009d3d00a0009d3e00a0009d3d00a000,
  0x8043fe4980cf500a82708043fc4d608043fb4d50d4246e4d408043fb4d308043fa4d2080446d469,
  0x9d4600a8359d3900a8364d4500a5e89d4400a835498200a82008043fe49a4d430354994d430344d7,
  0x8043fd4d89d4b00a0009d4b00a0009d4a00a0009d0b00a8389d4900a0004d4802b8374d47029837,
  0x80441253408043fb4dd08043fa4dc08043fb4db0d4d0246fb08043fa4da0d4c3185ea08043fe4d9,
  0x8044165340d5000a5e408044155370d4f00a00008044145360a9410f5db0d4e00a0000804413535,
  0x8044195394d430354de4d4303453808044185360d5200a0000d5100a0000804417535080446f49b,
  0x4cd003b53e4cd003a53d4cd003653c4cd03d553b080446f49c080441a5374ccd3d153a0d5300a000,
  0x4cd104a5454cd10425444cd10405434cd103f5424cd103e5414cd103c5404cd13e753f08043fe4df,
  0x4cd205854d4cd205654c4cd23ee54b4cd105454a4cd10525494cd10505484cd104e5474cd104c546,
  0x4cd20685554cd20665544cd20645534cd20625524cd20605514cd205e5504cd205c54f4cd205a54e,
  0x4cd307855d4cd207655c4cd207455b4cd207255a4cd20705594cd206e5584cd206c5574cd206a556,
  0x4cd30485654cd30475644cd30465634cd30455624cd30445614cd307e5604cd307c55f4cd307a55e,
  0xa941105dd9d5602f8399d5502d8394d5408a56a4d540895694cd30855684cd30835674cd3082566,
  0x9d5a00a0009d5900a0000a941105da9d1f00a8380a941105dc9d5800a5eb9d5700a5eb9d4600a000,
  0x9cc800a0009d5c00a0000a941105df9d5a00a0009d3900a0009d5b00a83a9d0b00a0009d4400a000,
  0x9d6400a83a9d6300a5eb9d6200a0009d6100a0009d6000a0009d5f00a83b9d5e00a0009d5d00a000,
  0x9d6a00a0009d6a00a0009d6a00a0009d6900a0001d6800a0009d6700a0009d6600a83a9d6500a83c,
  0x9d7100a0001d7000a0009d6f00a5eb9d6e00a0009d6d00a0009d6c00a0009d6c00a0009d6b00a000,
  0x9d7700a5eb9d7600a0009d7500a0009d7500a0009d7400a0009d7300a0001d7000a0009d7200a83b,
  0x9d7e00a0009d7e00a0009d7d00a0009d7c00a0009d7b00a5eb9d7a00a0009d7900a0001d7800a000,
  0x9d8500a0009d8500a0009d8400a0009d8300a0009d8200a0009d8100a5eb9d8000a0009d7f00a000,
  0x80441f536080441e5350d4c3186fc080441d539080441c535080441b5360a941105e09d8600a000,
  0x4d430355ec08040a756b0d870246fd08044245360804423536080442253508044215390804420535,
  0x4d8800a5e8a80401a56da80401256da80400e56d080446f4e0a80400a56da00400a56c080434f5ed,
  0x9d8b00a5eba80402856da80402656da80402456da80402056da80401d56d4d8a00a5e84d8900a5e8,
  0x8043505ee5d9100a0005d9000a0005d8f00a0000d8e00a0000d8d00a0004d8c03b6ff4d8c03b6fe,
  0xa00400a57108043cc5f1a00400a57008043cb5f0a00400a56f08043515ef0d9201d814a00400e56e,
  0xd9500a83e0d9400a83e0d9334983d08043ce5f208040ab575a004012574a00400e573a00400a572,
  0x4d430357000804446579080444757808040a75f3580431d577080444657608040ad5f30d9600a83f,
  0xd9a340701180443b57c08043f157b0d9900a840080444857a080400a5f50d9808c5f40d9700a000,
  0x8040aa5f708040c85f608040ae5f34d9c00a0004d9b00a000080444857e0bb300a820080446e57d,
  0x80401d5f50804447580080401a5fa08040125f5580431e57f0d9e00a5f8080400e5f90d9d3185f8,
  0x8040265f91da13415fd08040245fc580431f5814da01788414cf63f470008040205fb4d9f00a000,
  0x4da317a8414cf808e7004cf83f5700080402b5fb08040295f50da200a0000a943f96ef08040285fa,
  0x4cfc09a7004cfc0987004cfc0967004cfc0947004cfc0927004cfc3f8700080402d5fc4da317c841,
  0x4cfe0bc7004cfe4057004da417d8414cfc0b87004cfc0b47004cfc0a27004cfc0a07004cfc09e700,
  0x4cfe0d37004cfe0d17004cfe0cf7004cfe0ce7004cfe0cd7004cfe0c57004cfe0c47004cfe0c0700,
  0x4cfe0e37004cfe0e17004cfe0df7004cfe0dd7004cfe0db7004cfe0d97004cfe0d77004cfe0d5700,
  0x4cfe0f47004cfe0f27004cfe0f07004cfe0ed7004cfe0eb7004cfe0e97004cfe0e77004cfe0e5700,
  0x4d001007004d000fe7004d000fc7004d000fb7004d0040c7004cfe0f97004cfe0f87004cfe0f6700,
  0x4d001107004d0010f7004d0010c7004d0010a7004d001087004d001067004d001047004d00102700,
  0x4d001207004d0011e7004d0011c7004d0011a7004d001187004d001167004d001147004d00112700,
  0x4d001307004d0012e7004d0012c7004d0012a7004d001287004d001267004d001247004d00122700,
  0x4d0013f7004d0013d7004d0013b7004d0013a7004d001387004d001367004d001347004d00132700,
  0x4d0214d7004d0214c7004d0214b7004d021497004d021477004d021457004d001437004d00141700,
  0x4d0215a7004d021597004d021577004d021567004d021547004d021537004d021517004d0214f700,
  0x4d021687004d021667004d021647004d021627004d021607004d0215e7004d0215c7004d0215b700,
  0x4da700a0004da600a0004da51747004da51727004da51707004da516e7004d0216c7004d0216a700,
  0x4daf0477e84dae0467e84dad0457e84dac0447e84dab03c7e84daa00a0004da900a0004da800a000,
  0x4db708e7e84db608c7e84db508a7e84db40897e84db30857e84db20837e84db10827e84db00487e8,
  0x4dbe00a0004dbd00a0004d8c03b8424dbc00a0004dbb00a0004dba00a0004db900a0004db80927e8,
  0x8040335fb580432358408040315f50d9a342702180443c5830804414582080402f5fb5804322581,
  0x80403c5fb080403b5fa080403a5f50dbf00a84308040365fa580432457708040355fb08040345fa,
  0x58043295865804328581580432758508040405f55804326581580432557f080403f5f5080403e5fa,
  0x80444958a08040ab5f308040b05f3580432e589580432d588580432c581580432b587580432a577,
  0xdc400a5fe0dc300a5fe0dc200a8450dc100a5fe0d9300a8440dc000a843580431e58c080444a58b,
  0xdca00a5fe0dc900a8450dc800a7e9080444858e080444658d0dc700a5fe0dc600a5fe0dc500a5fe,
  0x8044705ff08043115920dcc031847a00400e59108044485900d9700a7e9080444658f0dcb00a846,
  0x80444b602080444c6010dce00a0000dcd033847a00401a593080400a4e1080444b60008043f15ff,
  0x804331596a5d201a6050dd100a595480400a4e2080444d6040dd000e5940dcf176703080400a603,
  0x8043d160c080431460b08040ca60a0804311609080400e608080444d6070c2d00a000080444e606,
  0x80444f60e1dd63437040dd500a5e40dd400a5e448040124e3480400e4e3080442860d9dd3094848,
  0x4dda012612080442a61148040124e49dd909884808043d661008043d560f9dd80968480dd700e705,
  0x8044526171ddd341706080442c616080445161508043e76149ddc09e8489ddb09a8480804450613,
  0x9de10b88489de00b4848080445461b080442e61a080445361908043ee6189ddf0a28489dde0a0848,
  0x9de50c58489de40c4848080445861f080445761e9de30c08489de20bc848080445661d080445561c,
  0x4dec00a0004deb00a0004d4800a0009dea00a0009de900a0009de800a0009de700a0009de60cd848,
  0x804471620a00400a5970df200a0000df100a0000df000a0000def00a0000dee00a0004ded00a000,
  0x48040124e7480401d4e7080442b6210804331599480401a4e6a00401a59808040124e50804414620,
  0xdf800a6220df700a6220df600a6220df500a62248040124e8080442d6230df400a8490df300a622,
  0x48040244eb48040204ea080401a4e9080445a6270df900a62208044596260804430625080442f624,
  0x8040204f148040124f048040124ef48040284ef48040264ee080401d4ed48040124ec48040124eb,
  0x48040124f7480402f4f7480402d4f608040244f548040124f448040124f3480402b4f348040294f2,
  0x8043e862a0dfc00a84a0dfb00a6220dfa00a849080445b62908043d7628080431159a48040124f8,
  0x80444b6300a7100a84c0dfd00a84b080445e62f080445d62e08043f362d08043ef62c080445c62b,
  0xe0000a0000dff00a7ed0dfe00a84d0804311634080400a707080444d633080444b632080444d631,
  0xe0100a7eb0804460708080448763808043116375c9500a7090804486636b00400a635080445f708,
  0x80446470a08044637080e0400a0000e0400a0004e0301284e0e0201a639080446270a080446170a,
  0x804465708080448863c880400a63b0e0700a000b00401a63a0e0603170b4e0500a00098040ce59b,
  0xe0800a0000e0800a000080446970a080446870a080446770a480400a4f998040cf59c080446670a,
  0xe0931884f4cf700a0004dab00a00098040d159d080446a70a4cf601a84e0e0800a0000e0800a000,
  0x80400a63d0e0f00a0000e0e00a5e4b60d01a70f0e0c00a70e0e0b00a5e40e0a03370d0e0603170c,
  0xe1000a0004e0300a710080446d70a080446c70a480400a4fa98040d359e080446b70a080448963e,
  0x8044326f84cf802484e4e1102084e4cf801d84e08043f57080e1000a0000e1000a0000e1000a000,
  0xe1300a0000e0a0337114e1200a0004dad00a0004dda00a0004cf900a0004da300a0004dac00a000,
  0x8043f96f84e1702884e4cfc02684e08043f87084e1600a0000e1500a59f0e1400a000080446e70a,
  0x4cfc17a84e4e1717884e4e1703384e4cfc03184e4cfc02f84e4cfc02d84e4cfc02b84e4cfc02984e,
  0x4da400a0004e1800a0004cfd00a0004da400a0004daf00a00008044346f84dae00a0004cfc17c84e,
  0x8044706f84e1b00a0004cfe17f84e4e1a17d84e0804405708080446f70a1e1934383d480400a4fb,
  0x4cfe18a84e4e1a18884e4e1a18684e4cfe18584e4cfe18484e4e1a18384e4e1a18284e4cfe18084e,
  0x4cfe19784e4cfe19684e4cfe19584e4e1a19484e4e1a19284e4cfe19084e4cfe18e84e4cfe18c84e,
  0x4cfe1a484e4cfe1a284e4cfe1a084e4cfe19e84e4e1a19c84e4e1a19a84e4e1a19984e4e1a19884e,
  0x4db000a0004e1a1b284e4e1a1b084e4cfe1ae84e4cfe1ac84e4e1a1aa84e4e1a1a884e4cfe1a684e,
  0x4e1e00a0004e1e00a000080447170a4e1d00a0004cff00a0004e1c00a0004db100a00008044366f8,
  0x80440c7084e2000a0004e1f00a0004e1f00a0004e1f00a0004e1f00a0004e1e00a0004e1e00a000,
  0x4e211c084e4e211be84e4d001bc84e4e211ba84e4e211b884e08044726f84d001b684e4e211b484e,
  0x4e211d084e4d001ce84e4d001cc84e4e211ca84e4e211c884e4d001c684e4e211c484e4e211c284e,
  0x4d001e084e4d001de84e4e211dc84e4e211da84e4e211d884e4e211d684e4d001d484e4e211d284e,
  0x4e211e984e4e211e884e4d001e784e4d001e684e4e211e584e4e211e484e4d001e384e4d001e184e,
  0x4e211f184e4d001f084e4d001ef84e4e211ee84e4e211ed84e4d001ec84e4e211eb84e4e211ea84e,
  0x4d001f984e4e211f884e4e211f784e4d001f684e4d001f584e4d001f484e4d001f384e4e211f284e,
  0x4e2120184e4e2120084e4d001ff84e4e211fe84e4e211fd84e4e211fc84e4e211fb84e4d001fa84e,
  0x80447370a4d0100a0004e2200a0004db300a00008044386f84db200a0004e2120384e4e2120284e,
  0x4e2400a0004e2400a0004e2400a0004e2300a0004e2300a0004e2300a0004e2300a0000804474708]

private def stateWordsBlock4 : Array Nat := #[
  0x4d0220a84e4e2520984e4e2520884e4e2520784e4e2520684e4d0220584e4e2520484e4e2400a000,
  0x4e2521284e4d0221184e4e2521084e4e2520f84e4e2520e84e4e2520d84e4e2520c84e4e2520b84e,
  0x4e2521a84e4e2521984e4d0221884e4e2521784e4e2521684e4d0221584e4d0221484e4e2521384e,
  0x4e2522284e4e2522184e4e2522084e4e2521f84e4e2521e84e4d0221d84e4e2521c84e4e2521b84e,
  0x4e2522a84e4d0222984e4e2522884e4e2522784e4e2522684e4e2522584e4d0222484e4e2522384e,
  0x4e2523284e4e2523184e4d0223084e4e2522f84e4e2522e84e4d0222d84e4d0222c84e4e2522b84e,
  0x4e2523a84e4e2523984e4e2523884e4e2523784e4e2523684e4d0223584e4e2523484e4e2523384e,
  0x4e2700a0004e2700a0004e2700a0004e2600a0004db500a00008044756f84db400a0004e2523b84e,
  0x4e2923d84e08044767084e2923c84e4e2800a0004e2800a0004e2800a0004e2800a0004e2700a000,
  0x4e2924584e4e2924484e4e2924384e4e2924284e4da524184e4e2924084e4e2923f84e4e2923e84e,
  0x4e2924d84e4e2924c84e4e2924b84e4e2924a84e4e2924984e4e2924884e4e2924784e4e2924684e,
  0x4e2925584e4e2925484e4e2925384e4e2925284e4e2925184e4e2925084e4e2924f84e4da524e84e,
  0x4e2a25a84e4e2a25984e4e2a25884e4e2a25784e4db700a00008044776f84db600a0004e2925684e,
  0x4e2f00a0009d5600a0004e2e00a0004e2d00a0004e2b00a0004e2c00a0004e2b00a0004db800a000,
  0x4e3700a0004e3600a0004e3500a0004e3400a0004e3300a0000e3200a0000e3100a0004e3000a000,
  0x4e3b00a0004e3c00a0004e3b00a0004e3b00a0004e2f00a0009e3a00a0009e3900a0009e3800a000,
  0x4e4200a0004e4200a0004e4200a0004e4100a0004e4000a0004e3f00a0000e3e00a0004e3d00a000,
  0x4e4700a0004e4700a0004e4700a0004e4600a0004e4500a0004e4400a0004e4400a0004e4300a000,
  0x4e4c00a0004e4c00a0004e4b00a0004e4a00a0004e4a00a0004e4900a0004e4800a0004e4800a000,
  0x4e5200a0004e5100a0004e5000a0004e4f00a0004e4e00a0004e4e00a0004e4d00a0004e4c00a000,
  0x4e5700a0004e5600a0004e5600a0004e5500a0004e5500a0004e5400a0004e5300a0004e5200a000,
  0x4e5c00a0004e5c00a0004e5b00a0004e5b00a0004e5a00a0004e5a00a0004e5900a0004e5800a000,
  0x4e6300a0004e6200a0004e6100a0004e6000a0004e5f00a0004e5f00a0004e5e00a0004e5d00a000,
  0xe0603171398040d55a00e0210f640b00401d63f080400e7121e6600a0001e6500a0004e6400a000,
  0x80400e6430e0a0337150e0603171498040d95a2480400a4fc98040d75a1880400e642b00401a641,
  0x8044376f84e6900a81e4e6800a81d0e0a03371608044356f8480400a4fd4e6700a81c98040db5a3,
  0x98040dd5a4b00401264408044796f808044786f8080443a6f808044396f84e6a00a81f480400a4fe,
  0x80431164a080447a708b00401a649b004024648b00401a647b00402064698040df5a5b00401a645,
  0x80448170a080448070a080440170a080447f708080447e70a080447d708080447c70a080447b708,
  0x804486708080448570a080448470a080441170a080440d70a080448370a080440670a080448270a,
  0xe06031718080448a70a0e06031717080431164c080448970a080448870a0804487708080431164b,
  0x480400a650480400a64fc00400a64eb80400a64d5c9500a71b0e0a03371a080448b70a0e0a033719,
  0xb80400e655080448c70a080400a654480400e653480400a652080431171c5c9500a850480400e651,
  0xc8200a852080400a71d480401d65a480401a6594804012658480400e6574e6b00e851c00400e656,
  0x80433071f080431171e0e6d00a855980400a5a60e6c25b854480401265c480401265b0c8200a853,
  0x4b4c00e858080400a857c67000e721be6f00e720080400a65d080448d70a0e6e00e856080400a5a7,
  0xa67600a0000e75012856080448e6f80e7400e8550e7325c8544e720128590e7100a820480402065e,
  0x80425d6608dd634385ca67700a000080400a65f080400a5a90dd502685b080400a5a80e0c00a85a,
  0x8e1900a85f080400a5ac080400a5ab080400a5aa8e7a00a85c8e7900a85c080400e85e0e7800e85d,
  0xc004012662b804012661080400a5b0080400a5af0e7c00a5e4080400a5ae080400a5ad0e7b00a860,
  0x480401a669c00400e668b80400e667080400e666480401d665480401a6645c9500a8614804012663,
  0x80400a5b3080400a66d080400a5b2080400a66c080400a5b10804335722480401266b480401266a,
  0x80400a5b6080400a5b5080400a5b4080432f723c00400e671b80400e670c00401a66fb80401a66e,
  0x80400a5b9080400a5b8080400a5b70804332724c00400e675b80400e674c00401d673b80401d672,
  0x80400a5bc080400a5bb080400a5ba080433d725c00400e679b80400e678c004020677b804020676,
  0xb80400e680c00402667fb80402667e0804330726c00400e67db80400e67cc00402467bb80402467a,
  0x80449370a080449270a080449170a080400a5bd080449070a080448f70a0804311727c00400e681,
  0x80400a5bf080400a5be080449870a080449770a0e7d00a7eb080449670a080449570a080449470a,
  0x80400a728080400a5c4080400a5c3080449a70a080449970a080400a5c2080400a5c1080400a5c0,
  0x80401d72d0e7e00a862080449b72c080401a72b080400a72a080400a729480400a683480400a682,
  0x80400a73108040a7731080400a730080400a72f0e7f00a000080402072d080401d72e080401a72e,
  0xd9a00a0000804012864080400a73408040297330e8100a0000e8004286308043277320804012730,
  0xe8500a0000e7e00a8660e8400a0000e8300a865080400a7364e8200a000080448a735080400a684,
  0xe870208680e8601d867080401d73c080402073b080402073a080401d7390804012738080400a737,
  0x80400a73f0e8a00a8690e8900a00008040e173e080400e73d0e8800a000080400a5cd4e0300a000,
  0x80400e7430804026742080400a5e4080400a741480400a6850e8a01286b0bb700a86a0804012740,
  0xd4200a86d080400e7464e8d00a0000e8c00a86c4e8b00a000080400e74508040a87458804012744,
  0x4e8f00a0004e8f00a0000e8e00a869480400a687480400a686080400e749080400e748080400a747,
  0x80400a68a080400a689080400a6880e9202686f4cf600a0000e9100e86e0e9000a0004e7200a000,
  0xe9500e8714e9400a000080400e74c080401274b88040247440e9300e870080400e74a080400a68b,
  0x4cf800a000080417f7500e9700a000480400a68c080448b74f0e9600e872080401a74e080401274d,
  0x80400a732b69a00a0000e9900e8730e7800a0004cf800a0004e1100a0004e1100a0004e9800a000,
  0x4e9d00a0004e9c00a0004e1700a0004e1700a0004cfc00a0004e9b00a000080401a752080401a751,
  0x4e1700a0004e1700a0004cfc00a0004cfc00a0004cfc00a0004cfc00a0004cfc00a0004e9e00a000,
  0x4e1a00a0004e1a00a0004ea000a0000e9f01a8748e1900a0004cfc00a0004cfc00a0004e1700a000,
  0x4e1a00a0004e1a00a0004e1a00a0004cfe00a0004ea300a0004ea200a0004cfe00a0004ea100a000,
  0x4cfe00a0004cfe00a0004cfe00a0004e1a00a0004e1a00a0004e1a00a0004cfe00a0004cfe00a000,
  0x4e1a00a0004cfe00a0004cfe00a0004cfe00a0004e1a00a0004e1a00a0004e1a00a0004cfe00a000,
  0x4cfe00a0004ea100a0004ea100a0004e1a00a0004e1a00a0004e1a00a0004e1a00a0004e1a00a000,
  0x4cfe00a0004e1a00a0004e1a00a0004e1a00a0004cfe00a0004cfe00a0004cfe00a0004cfe00a000,
  0x4d0000a0004e2100a0004e2100a0004ea400a0004e1a00a0004e1a00a0004e1a00a0004cfe00a000,
  0x4d0000a0004ea400a0004ea400a0004e2100a0004e2100a0004e2100a0004ea600a0004ea500a000,
  0x4ea400a0004ea400a0004e2100a0004e2100a0004e2100a0004e2100a0004e2100a0004e2100a000,
  0x4e2100a0004e2100a0004d0000a0004d0000a0004e2100a0004e2100a0004e2100a0004d0000a000,
  0x4e2100a0004e2100a0004e2100a0004e2100a0004e2100a0004e2100a0004d0000a0004e2100a000,
  0x4e2100a0004e2100a0004d0000a0004d0000a0004d0000a0004d0000a0004ea400a0004ea400a000,
  0x4e2100a0004e2100a0004e2100a0004e2100a0004e2100a0004d0000a0004d0000a0004e2100a000,
  0x4e2100a0004e2100a0004d0000a0004ea400a0004ea400a0004ea400a0004ea400a0004e2100a000,
  0x4d0000a0004d0000a0004e2100a0004e2100a0004e2100a0004d0000a0004d0000a0004e2100a000,
  0x4e2100a0004d0000a0004d0000a0004e2100a0004e2100a0004e2100a0004d0000a0004d0000a000,
  0x4d0000a0004ea400a0004ea400a0004e2100a0004e2100a0004e2100a0004e2100a0004e2100a000,
  0x4ea400a0004ea400a0004e2100a0004e2100a0004e2100a0004e2100a0004e2100a0004e2100a000,
  0x4e2500a0004ea700a0004ea700a0004ea800a0004d0200a0004e2500a0004e2500a0004ea700a000,
  0x4e2500a0004e2500a0004ea700a0004ea700a0004ea700a0004ea700a0004e2500a0004e2500a000,
  0x4e2500a0004e2500a0004e2500a0004e2500a0004d0200a0004ea700a0004ea700a0004e2500a000,
  0x4ea700a0004e2500a0004e2500a0004e2500a0004ea700a0004ea700a0004e2500a0004e2500a000,
  0x4d0200a0004e2500a0004e2500a0004e2500a0004d0200a0004ea700a0004ea700a0004ea700a000,
  0x4e2500a0004e2500a0004e2500a0004d0200a0004e2500a0004e2500a0004e2500a0004d0200a000,
  0x4e2500a0004e2500a0004d0200a0004ea700a0004ea700a0004e2500a0004e2500a0004e2500a000,
  0x4ea700a0004ea700a0004ea700a0004ea700a0004e2500a0004e2500a0004e2500a0004e2500a000,
  0x4e2500a0004e2500a0004d0200a0004ea700a0004ea700a0004e2500a0004e2500a0004e2500a000,
  0x4e2500a0004d0200a0004ea700a0004ea700a0004e2500a0004e2500a0004e2500a0004e2500a000,
  0x4d0200a0004e2500a0004e2500a0004e2500a0004d0200a0004d0200a0004e2500a0004e2500a000,
  0x4ea700a0004ea700a0004e2500a0004e2500a0004e2500a0004e2500a0004e2500a0004e2500a000,
  0x4ea700a0004e2500a0004e2500a0004e2500a0004e2500a0004e2500a0004e2500a0004d0200a000,
  0x4ea700a0004ea700a0004e2500a0004e2500a0004e2500a0004ea700a0004ea700a0004ea700a000,
  0x4ea900a0004ea900a0004ea900a0004e2900a0004e2900a0004ea900a0004ea700a0004ea700a000,
  0x4ea900a0004ea900a0004ea900a0004ea900a0004e2900a0004e2900a0004e2900a0004ea900a000,
  0x4da500a0004ea900a0004ea900a0004e2900a0004e2900a0004e2900a0004ea900a0004ea900a000,
  0x4ea900a0004ea900a0004e2900a0004e2900a0004e2900a0004e2900a0004e2900a0004e2900a000,
  0x4e2900a0004ea900a0004ea900a0004ea900a0004ea900a0004e2900a0004e2900a0004e2900a000,
  0x4ea900a0004ea900a0004ea900a0004ea900a0004ea900a0004ea900a0004e2900a0004e2900a000,
  0x4e2900a0004ea900a0004ea900a0004ea900a0004ea900a0004e2900a0004e2900a0004e2900a000,
  0x4e2900a0004e2900a0004e2900a0004da500a0004ea900a0004ea900a0004e2900a0004e2900a000,
  0x4e2900a0004e2900a0004e2900a0004ea900a0004ea900a0004e2900a0004e2900a0004e2900a000,
  0x4ea900a0004e2900a0004e2900a0004e2900a0004ea900a0004ea900a0004ea900a0004ea900a000,
  0x4eaa00a0004eaa00a0004eaa00a0004ea900a0004ea900a0004ea900a0004ea900a0004ea900a000,
  0x4eaa00a0004eaa00a0004eaa00a0004e2a00a0004e2a00a0004e2a00a0004eaa00a0004eaa00a000,
  0x4eaa00a0004eaa00a0004eaa00a0004eaa00a0004eaa00a0004eaa00a0004eaa00a0004eaa00a000,
  0x4eaa00a0004eaa00a0004eaa00a0004eaa00a0004e2a00a0004e2a00a0004e2a00a0004eaa00a000,
  0x4eab00a0004eab00a0004eab00a0004eab00a0004eaa00a0004eaa00a0004eaa00a0004eaa00a000,
  0x80401d7538eb100a0008eb000a0008eaf00a0008eae00a0000bbd0128768ead00a0000eac012875,
  0x80400a75808040aa758080400e75708040127560804020754080401d75508040207550804024754,
  0x80401d75e080402075d080402075c080401d75b080400a68d080401275a080402b7590804012757,
  0x8804026765080400e7640804026763080400a5d908040127620804012761080400a760080400e75f,
  0x80400e769080401d7688804028765080400e767480400a68f480400a68e080400e76608040ab766,
  0x80401d770080401d76f080402d76e080401a76d080401d76c080402476c080401a76b080401a76a,
  0x80400a691080400a690080400e77408040b07740804026773080400a5e8080401a772080400e771,
  0x804026779080400a5d4080401d778080402f777080400e776080400e775080400a693080400a692,
  0x80402677f080400a5eb080402077e080403177d080400e77c080400e77b080400e77a08040ca77a,
  0x80400e782080400e781080400a697080400a696080400a695080400a694080400e7800804311780,
  0x80400e788080400e787080400e7860804315786080400e785080400e78408043147840804026783,
  0x80400a6220c0300e8790eb200a878080401a877080402978a080400e732080400e7890804012729,
  0x8040aa87a08040a887a08040a787a0e0900a7f0080400a5fe080400a5cf080449c78c080402978b,
  0x80401d87c080400a87c080400a78f08043fa87b480400a78e480400a78d08040e37e808040ab87a,
  0x804042880480400a793480400a792480400a791480400a790080401287f080400a87e0eb300a87d,
  0xdcd00a000080401d814080400a795080400a794080400a88108040e77e808043fb87b08040e5804,
  0xe8700a000480400a799480400a79808040a78820eb400a000080402087c080400a797480400a796]

private def stateWordsBlock5 : Array Nat := #[
  0xe8a00a00008040e97e808040ad8830e6c00a000080400e8810804180841080403c7e80e8600a000,
  0xeb500a00008043fd87b080431884f08043fc87b08040ed80408040eb804080404c880080404a884,
  0xeb800a0000eb700a0000eb600a00008040348140804033885080400a79c080400a79b080400a79a,
  0xeb900a000480400a7a0480400a79f0804050887480400a79e0804012886480400a79d080404e880,
  0x8040f080408040528800ebb00a00008040457e80e8e00a00008040447e84eba00a000480400a7a1,
  0x8043fe88908040f47d308040f2804080405688408040548880ebc00a0000e7300a0000e9100a000,
  0x80418284f080400a7a6080441287b0ebd00a000080400a7a5080400a7a4080400a7a3080400a7a2,
  0x80405c880080405a884080405888a0e9300a000080441387b0ec000a0000ebf00a0000ebe00a000,
  0xec300a0000ec200a000480400a7a7080406088708040f6842080405e8870ec100a0000e9500a000,
  0x8040f880408040628800ec600a00008040477e80ec500a00008040467e84ec400a0000e9600a000,
  0x80441488908040fb7d3080406888808040668880ec700a000080400a7a8080406488008040f9804,
  0xecb00a000080406e88a080406c8840eca00a000080406a88a0e9900a0000ec900a0000ec800a000,
  0xed000a00008040487e80ecf00a0004ece00a0000ecd00a0000ecc00a000080407088708040fc842,
  0xe9f00a000080400a7a908041007e80804074888080400a710080407288008040fe80408040827e8,
  0x8040897e80ed300a00008041027e808040857e80ed200a00008040837e80ed100a000080407688a,
  0x8040927e80ed700a000080408e7e80ed600a000080408c7e80ed500a000080408a7e80ed400a000,
  0x8041048050804078888080441588b4edc00a0004edb00a0004eda00a0000ed900a0000ed800a000,
  0x80401a88c0804094848480400a7ac080400e803080400a7ab080400a7aa080401288c0804106842,
  0x80403588d080400a7af080400a7ae080400a7ad080410a8050804108805080407c888080407a880,
  0x804045888080409884808040968480804044887480400a7b1480400a7b0080407e8880804036803,
  0x80400a7b5080400a7b4080400a7b3080400a7b20804110804080410f8050804046880080410c805,
  0x80409e848080409a84808040858870804083887080408288808040488800804047887080400a7b6,
  0x804092887080408e880080408c8870804116804080408a888080411480508041128050804089888,
  0x8040b884808040b484808040988870804096888080411880508040a284808040a08480804094887,
  0x80400a7b7080409a880080441688908040cd84808040c584808040c484808040c084808040bc848,
  0x80400a7bd080400a7bc080400a7bb080400a7ba080411a804080409e880080400a7b9080400a7b8,
  0x80400a7c2080400a7c1080400a7c0080400a7bf08040a2880080411c80408040a0880080400a7be,
  0x80400a7ca080400a7c9080400a7c8080400a7c7080400a7c6080400a7c5080400a7c4080400a7c3,
  0x8040c887a08040ae87a080400a7d0080400a7cf080400a7ce080400a7cd080400a7cc080400a7cb,
  0x80441a87b080402488e080441987b080441887b080441787b080401a87f080401287c08040b087a,
  0x80442087b080441f87b080441e87b080441d87b080441c87b0804120842080411e842080441b87b,
  0x80443c87b080400a7d2080443b87b080400a7d1080442487b080442387b080442287b080442187b,
  0x80400a84dc80400a88f08044a087b080449f87b080449e87b080449d87b080449c87b080449b87b,
  0x80400a895080400a894080400a7ec080400a8930edd00a000080400a892080400a891080400a890,
  0x80400a89c080400a89b080400a89a080400a8990eb300a000080400a898080400a897080400a896,
  0x80400a8a0d00400a89f080400a7f4080400a89e080400a89d080400a853080400a8520e8000a000,
  0x80400a8a8080400a8a7080400a8a6080400a8a5080400a8a4080400a8a3080400a8a2080400a8a1,
  0x80400a8b0080400a8af080400a8ae080400a8ad080400a8ac080400a8ab080400a8aa080400a8a9,
  0x80400a8b7080400a8b6080400a8b5080400a8b4080400a8b3080400a8b20ede00a000080400a8b1,
  0x80400a8bd080400a8bc080400a8bb080400a8ba0edf00a000080400a840080400a8b9080400a8b8,
  0x80400a8c5080400a8c4080400a8c3080400a8c2080400a8c1080400a8c0080400a8bf080400a8be,
  0xee300a000080400a8c90ee200a000080400a8c8080400a8c70ee100a000080400a8c60ee000a000,
  0x80400a8d1080400a8d0080400a8cf080400a8ce080400a8cd080400a8cc080400a8cb080400a8ca,
  0x80400a8d7080400a8d6080400a8d5080400a8d4080400a8d3080400a8d20ee400a000080400a82a,
  0x80400a8df080400a8de080400a8dd080400a8dc080400a8db080400a8da080400a8d9080400a8d8,
  0x80400a8e6080400a8e5080400a8e4080400a8e30ee500a000080400a8e2080400a8e1080400a8e0,
  0x80400a8ee080400a8ed080400a8ec080400a8eb080400a8ea080400a8e9080400a8e8080400a8e7,
  0x80400a8f6080400a8f5080400a8f4080400a8f3080400a8f2080400a8f1080400a8f0080400a8ef,
  0x80400a8fd080400a8fc080400a8fb080400a8fa080400a7e9080400a8f9080400a8f8080400a8f7,
  0x80400a904080400a903080400a902080400a901d00400a900080400a7f5080400a8ff080400a8fe,
  0x80400a90c080400a90b080400a90a080400a909080400a908080400a907080400a906080400a905,
  0x80400a913080400a836080400a912080400a911080400a910080400a90f080400a90e080400a90d,
  0x80400a91b080400a91a080400a919080400a918080400a917080400a916080400a915080400a914,
  0x80400a923080400a922080400a921080400a920080400a91f080400a91e080400a91d080400a91c,
  0x80400a92b080400a92ad00400a929080400a928080400a927080400a926080400a925080400a924,
  0x80400a933080400a932080400a931080400a930080400a92f080400a92e080400a92d080400a92c,
  0x80400a93a080400a939080400a938080400a830080400a937080400a936080400a935080400a934,
  0x80400a942080400a941080400a940080400a93f080400a93e080400a93d080400a93c080400a93b,
  0x80400a94a080400a949080400a948080400a947080400a946080400a945080400a944080400a943,
  0x80400a952080400a951080400a950080400a94fd00400a94e080400a94d080400a94c080400a94b,
  0x80400a95a080400a959080400a958080400a957080400a956080400a955080400a954080400a953,
  0x80400a961080400a960080400a95f080400a95e080400a95d080400a812080400a95c080400a95b,
  0x80400a969080400a968080400a967080400a966080400a965080400a964080400a963080400a962,
  0x80400a971080400a970080400a96f080400a96e080400a96d080400a96c080400a96b080400a96a,
  0x80400a979080400a978080400a977080400a976080400a975080400a974080400a973d00400a972,
  0x80400a980080400a801080400a97f080400a97e080400a97d080400a97c080400a97b080400a97a,
  0x80400a988080400a987080400a986080400a985080400a984080400a983080400a982080400a981,
  0x80400a990080400a98f080400a98e080400a98d080400a98c080400a98b080400a98a080400a989,
  0x80400a998c80400a997080400a996080400a995080400a994080400a993080400a992080400a991,
  0x80400a9a0080400a99f080400a99e080400a99d080400a99c080400a99b080400a99a080400a999,
  0x80400a9a7080400a9a6080400a844080400a9a5080400a9a4080400a9a3080400a9a2080400a9a1,
  0x80400a9ae080400a9ad080400a7ed080400a9ac080400a9ab080400a9aa080400a9a9080400a9a8,
  0x80400a9b5080400a9b4080400a9b3080400a9b2080400a9b1c80400a9b0080400a7f6080400a9af,
  0x80400a9bc080400a9bb080400a9ba080400a9b9080400a9b8c80400a9b7080400a7f7080400a9b6,
  0x80400a9c3080400a9c2080400a9c1080400a9c0080400a9bfc80400a9be080400a7f8080400a9bd,
  0x80400a9ca080400a9c9080400a9c8080400a9c7080400a9c6080400a9c5080400a7f9080400a9c4,
  0x80400a9d0080400a7fb080400a9cf080400a9ce080400a9cd080400a9cc080400a9cb080400a7fa,
  0x80400a7fc080400a9d6080400a9d5080400a9d4080400a9d3080400a7f1080400a9d2080400a9d1,
  0x80400a9de080400a9dd080400a9dc080400a9db080400a9da080400a9d9080400a9d8080400a9d7,
  0x80400a9e5080400a9e4080400a83f080400a9e3080400a9e2080400a9e1080400a9e0080400a9df,
  0x80400a7fd080400a9ea080400a9e9080400a9e8080400a7ee080400a9e7080400a9e6080400a7eb,
  0x80400a9ee080400a7f3080400a7f0080400a9ed080400a7f2080400a9ec080400a7ef080400a9eb,
  0x80400a9f6080400a9f5080400a9f4080400a9f3080400a9f2080400a9f1080400a9f0080400a9ef]

/-- Eight states to a word, 40 bits each: shift row (12), goto row (12), reduce row (11) and
lexical mode (5). -/
def stateWords : Array (Array Nat) := #[
  stateWordsBlock0, stateWordsBlock1, stateWordsBlock2, stateWordsBlock3, stateWordsBlock4,
  stateWordsBlock5]

end TypeScriptRepl.Grammar
