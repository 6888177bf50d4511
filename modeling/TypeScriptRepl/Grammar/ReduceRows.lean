/-! Reduce rows of the parse automaton: which actions apply on which lookaheads. -/
namespace TypeScriptRepl.Grammar

private def reduceRowsBlock0 : Array Nat := #[
  0x1, 0x402, 0x100500c0400803, 0x10050180600c0401403, 0x0, 0x1c07, 0x2008, 0x2009, 0x200a, 0x200b,
  0x40c, 0x40d, 0x10050280e02404, 0x1005018060300302c04, 0x10050340302c04, 0x100503c0303804,
  0x10050400f03804, 0x100504404, 0x100502404, 0x100504804, 0x1005018060300303804, 0x10050340303804,
  0x100504c04, 0x10050501003804, 0x100505404, 0x100505c060580303804, 0x100506004,
  0x10050680f0641003804, 0x1005050060140303804, 0x100506c04, 0x1005070060140303804, 0x100507404,
  0x1005064060140303804, 0x100507804, 0x10050680f03804, 0x100503804, 0x100507c04, 0x100508004,
  0x8411, 0x8811, 0x8c11, 0x9011, 0x9411, 0x9811, 0x9c11, 0xa011, 0xa411, 0xa811, 0x10050ac04,
  0x10050b004, 0x10050b404, 0x10050b804, 0x10050680f0641000c04, 0x10050640600c0401403,
  0x10050700600c0401403, 0x10050bc04, 0x10050c004, 0x10050680f00c04, 0x10050c404, 0x10050c804,
  0x10050cc04, 0x100500c04, 0xd012, 0xd412, 0x14150dc140d813, 0xe0170d816, 0xe418, 0xe419,
  0xdc1b0d81a, 0xe41c, 0xe41d, 0xdc1f0d81e, 0xdc210d820, 0xdc230d822, 0xdc250d824, 0xdc270d826,
  0xdc290d828, 0xdc2b0d82a, 0xdc2d0d82c, 0xdc2f0d82e, 0xe813, 0xe430, 0xe431, 0xe831, 0xe432,
  0xe433, 0xe434, 0xe435, 0xec36, 0xf036, 0x6437, 0xf436, 0x100501806030030fc040f838,
  0x100501806030030fc040f839, 0x643a, 0x1005034030fc040f838, 0x1005034030fc040f839, 0x10036,
  0x10436, 0x643b, 0x1083b, 0x10050280e1103c10c04, 0x10050280e1103c11404, 0x100511804, 0x100511c04,
  0x12030, 0x12033, 0x1243d, 0x1243e, 0x1243f, 0x12440, 0x12441, 0x10050280e1103c12c0412838,
  0x10050280e1103c12c0412839, 0x100513004, 0x100503c0302c04, 0x10050400f02c04, 0x100513404,
  0x100513804, 0x10050680f0501002c04, 0x100513c04, 0x100514004, 0x100505c060580302c04, 0x100514404,
  0x100514804, 0x1005050060140302c04, 0xd842, 0x14c31]

private def reduceRowsBlock1 : Array Nat := #[
  0x14c13, 0x100515004, 0x14c34, 0x15432, 0x15435, 0x15431, 0x15813, 0x15434, 0x15831, 0x100515c04,
  0x100516004, 0x10050680f02c04, 0x100502c04, 0xd843, 0x16412, 0x16844, 0x1c45, 0xd81a, 0x16c46,
  0x17047, 0xd81e, 0xd820, 0xd822, 0xd824, 0xd826, 0xd828, 0xd82a, 0xd82c, 0xd82e, 0x17048, 0x17049,
  0x1741c, 0x1741d, 0x1784a, 0x1784b, 0xd84c, 0xd816, 0xd84d, 0xd84e, 0xd84f, 0xd850, 0xd851,
  0xd852, 0xd853, 0xd854, 0xd855, 0xd856, 0xd857, 0xd858, 0xd859, 0xd85a, 0xd85b, 0xd85c, 0xd85d,
  0xd85e, 0xd85f, 0xd860, 0xd861, 0xd862, 0xd863, 0xd864, 0xd865, 0xd866, 0xd867, 0xd868, 0xd869,
  0xd86a, 0xd86b, 0xd86c, 0xd86d, 0xd86e, 0xd86f, 0xd870, 0xd871, 0xd872, 0xd873, 0xd874, 0xd875,
  0xd876, 0xd877, 0xd878, 0xd879, 0xd87a, 0xd87b, 0xd87c, 0xd87d, 0xd87e, 0xd87f, 0xd880, 0xd881,
  0xd882, 0xd883, 0xd884, 0xd885, 0xd886, 0xd887, 0xd888, 0xd889, 0xd88a, 0xd88b, 0xd88c, 0xd88d,
  0xd88e, 0xd88f, 0xd890, 0xd891, 0xd892, 0xd893, 0xd894, 0xd895, 0xd896, 0xd897, 0xd898, 0xd899,
  0xd89a, 0xd89b, 0xd89c, 0xd89d, 0xd89e, 0xd89f, 0xd818, 0xd819, 0xd832, 0xd835, 0x17ca0, 0x17ca1,
  0x17ca2, 0x17ca3]

private def reduceRowsBlock2 : Array Nat := #[
  0x17c4a, 0x17c4b, 0x180a4, 0x180a5, 0x180a6, 0x10050280e1103c18404, 0x188a7, 0x188a8, 0x188a9,
  0x70aa, 0x100518c04, 0x100519004, 0x198ac194ab, 0x198ae194ad, 0x19caf, 0x19cab, 0x19cad, 0x19cb0,
  0x19cb1, 0x10b40280e110b3114b2, 0x10051a004, 0x1a44a, 0x1a44b, 0x10b40ecb51a8b2, 0x10b4104b51acb2,
  0x10b41b0b2, 0x1b4b6, 0x1c0ba010b41bcb9064b8014b71b8b2, 0x10b4104b51c4b2,
  0x10b41bcb91c8ba070b8014b71b8b2, 0x198ba010b41d0b91ccb2, 0x10b4104b51d4b2, 0x1d8bb,
  0x198ba010b41bcb91e0bc1dcb71b8b2, 0x198ba010b41d0b91e4b2, 0x1e8bd, 0x10b403cb702cb2,
  0x10b4040be02cb2, 0x198ba010b41bcb91e0b81ecbf030b71b8b2, 0x10b4104b51f0b2,
  0x10051bcc01f436014031b804, 0x10b41f8b51a8b2, 0x198ba010b41d0b91fcb2, 0x19836010051d0c01cc04,
  0x10b4104b5200b2, 0x10b4104b5204b2, 0x10b420cb5208b2, 0xf8bb, 0x10051bcc0210361dc031b804, 0x214c1,
  0x19836010051d0c01e404, 0x10b41bcb9068be218ba1b8b2, 0x214c2, 0x10051bcc0210361ec06030031b804,
  0x198ba010b41d0b921cb2, 0x198ba010b41bcb9068be064c31b8b2, 0x198ac220ab, 0x198ae220ad,
  0x10b422cb9228ba224b2, 0x1c8ac230ab, 0x1c8ae230ad, 0x19836010051d0c01fc04, 0x198ba010b41d0b9234b2,
  0x10b4104b5238b2, 0x10b4104b523cb2, 0x10b4104b5240b2, 0x10b4244b51a8b2, 0x10b424cb5248b2,
  0x10b4134b2, 0x10b411cb2, 0x1d8c4, 0x10b4138b2, 0x10b4018bf030b702cb2, 0x1d8b6, 0x220af, 0x2204a,
  0x220ab, 0x220ad, 0x2204b, 0x10b420cb51a8b2, 0x10051bcc00680f218361b804, 0x1d8c5, 0x220b0,
  0x220b1, 0x19836010051d0c021c04, 0x19836010051bcc00680f064c61b804, 0x10051bcc025036014031b804,
  0x218ac254ab, 0x218ae254ad, 0x100522cc02283622404, 0x198ba010b425cb9258b2, 0x10b4260b2,
  0x19836010051d0c023404, 0x10b4104b5264b2, 0x10b413cb2, 0x10b422cb9228ba268b2,
  0x10b422cb9228ba26cb2, 0x10b422cb9228ba270b2, 0x10b4050c702cb2, 0x10b4068be050c702cb2,
  0x10b4140b2, 0x10b405cbf058b7274b2, 0x10b4144b2, 0x10b422cb9228ba278b2, 0x1c0ac27cab,
  0x1c0ae27cad, 0x198360100525cc025804, 0x228ac280ab, 0x228ae280ad, 0x10b4050bf014b702cb2,
  0x100522cc02283626804, 0x100522cc02283626c04, 0x100522cc02283627004, 0x10b4148b2, 0x10b4284b2,
  0x10b405cbf058b702cb2, 0x100522cc02283627804, 0x228ac288ab, 0x228ae288ad, 0x10b4130b2,
  0x10b402cb2, 0x10b415cb2, 0x10b4150b2, 0x10b4160b2, 0x10b4068be02cb2, 0x28cc8, 0x2900e, 0x294c9]

private def reduceRowsBlock3 : Array Nat := #[
  0x29830, 0x29833, 0x29c0e070ca, 0x2a0b5, 0x2a4ba, 0x2a817, 0x2aca4, 0x2aca5, 0x2aca6, 0x14151b013,
  0x2b036, 0x2b4cb, 0x2b8cc, 0x2ac30, 0x2b0cd, 0x2ac33, 0x2bcce, 0x2bccb, 0x2bccf, 0x2c4d12c0d0,
  0x2c4d22c0d0, 0x2c817, 0x2ccd3, 0x2ccd4, 0x198cb1b0d5, 0x2d0d5, 0x2d0d6, 0x2d412, 0x2d812,
  0x2bca7, 0x1983d1d0d7014152dc14, 0x104b52e0b2, 0x198db1d0da014d92dcd8, 0x104dc2e4b2, 0x2bca8,
  0x2bca9, 0x2e812, 0x2ec12, 0x2bcdd, 0x2bcde, 0x2f0cc, 0x2bccc, 0x2f4cc, 0x1b013, 0x2bc3d, 0x2f0b5,
  0x2bcb5, 0x2bcdb, 0x2bcdf, 0x2f8e0, 0x2bcdc, 0x2bce1, 0x2bce2, 0x2d0e3, 0x300cc2fce4, 0x1b0e5,
  0x2f4e6, 0x2bcd1, 0x2bce7, 0x2bc3e, 0x2bcd2, 0x2bce8, 0x2bce9, 0x2bcea, 0x2bceb, 0x304ed2f0ec,
  0x2bcac, 0x2bcae, 0x304ee2f0ec, 0x2bcef, 0x2d0ef, 0x2bcf0, 0x2f8f1, 0x2bcf2, 0x2bc3f, 0x2bcf3,
  0x2bcf4, 0x2bcf5, 0x2bcf6, 0x2d0f7, 0x2bcf8, 0x2bcf9, 0x2d0f9, 0x2bc40, 0x2bcfa, 0x2bcfb, 0x2bcfc,
  0x2bc41, 0x2bcfd, 0x2bcfe, 0x2d0ff, 0x2d100, 0x2d101, 0x1b031, 0x1b0b2, 0x308c9, 0x1b017, 0x1b102,
  0x1b103, 0x1b0d0, 0x1b104, 0x1b105, 0x1b106, 0x1b107, 0x1b108, 0x1b032, 0x1b109, 0x1b10a, 0x1b0d4,
  0x1b10b, 0x1b10c, 0x1b10d, 0x198ce1d10e2dcb2, 0x1b10f, 0x1b110, 0x1b01b, 0x1b111, 0x1b035,
  0x1b112, 0x1b113, 0x1b114, 0x1b115, 0x1b116, 0x1b117, 0x1b118, 0x1b119, 0x1b01f, 0x1b021]

private def reduceRowsBlock4 : Array Nat := #[
  0x1b023, 0x1b11a, 0x1b11b, 0x1b025, 0x1b027, 0x1b029, 0x1b02b, 0x1b02d, 0x1b02f, 0x14d930cd8,
  0x151d30d1c, 0x141530c14, 0x198de1d11e2dcb2, 0x3101c, 0x3101d, 0x198e11d11f2dd03, 0x1b018,
  0x1b019, 0x1b01c, 0x1b01d, 0x1b034, 0x2d832, 0x3140e, 0x2d835, 0x31920030d9160d8,
  0x319210311d1611c, 0x2d831, 0x31c31, 0x319220301516014, 0x320b5, 0x2d834, 0x2d818, 0x2d819,
  0x31c13, 0x324ba, 0x32923, 0x32d05, 0x32d24, 0x32d25, 0x32d26, 0x32d0c, 0x33127, 0x33527, 0x33927,
  0x33d27, 0x34127, 0x34527, 0x34927, 0x34d27, 0x35127, 0x35527, 0x35927, 0x35d27, 0x32d28, 0x32d13,
  0x32d15, 0x32d29, 0x32d2a, 0x32d2b, 0x3612c, 0x3652d, 0x32d2e, 0x36904, 0x36c17, 0x3712c, 0x3752d,
  0x3792e, 0x37d04, 0x38123, 0x37905, 0x37924, 0x37925, 0x37926, 0x3790c, 0x38527, 0x388a4, 0x38d27,
  0x39127, 0x39527, 0x39927, 0x39d27, 0x3a127, 0x3a527, 0x3a927, 0x3ad27, 0x3b127, 0x3b527, 0x37928,
  0x37913, 0x37915, 0x37929, 0x3792a, 0x388a5, 0x388a6, 0x3792b, 0x3cb702cb2, 0x3b836, 0x3bccb,
  0x3c0cc, 0x40be02cb2, 0x3c52f, 0x3b8cd, 0x1983d1d0d7014153c814, 0x198db1d0da014d93c8d8,
  0x3cd902cd8, 0x3d1d02d1c, 0x3c1502c14, 0x1bd1e1f4de014b71b8b2, 0x3ccce, 0x3cccb, 0x3cccf,
  0x1bcd71c83d07130014151b814, 0x1bcda1c8db07131014d91b8d8, 0x3d132, 0x3d523, 0x3d905, 0x3d924,
  0x3d925, 0x3d926, 0x3d90c, 0x3dd27, 0x3e127, 0x3e527, 0x3e927, 0x3ed27, 0x3f127, 0x3f527, 0x3f927]

private def reduceRowsBlock5 : Array Nat := #[
  0x3fd27, 0x40127, 0x40527, 0x40927, 0x3d928, 0x3d913, 0x3d915, 0x3d929, 0x3d92a, 0x3d92b,
  0x198de1d11e1ccb2, 0x40d2c, 0x4112d, 0x3d92e, 0x41504, 0x41817, 0x14d9260d8, 0x41cd3, 0x151d2611c,
  0x141526014, 0x4200e, 0x4280e42438, 0x41cd4, 0x198ce1bd0e1e1341dd331b8b2, 0x1bd1e210de1dcb71b8b2,
  0x198cb260d5, 0x42cd5, 0x198ce1d10e3c8b2, 0x198de1d11e1e4b2, 0x42cd6, 0x4353643135,
  0x439244353643135, 0x439264353643137, 0x439264353943138, 0x1983d1bcd71e13a1dc151b814,
  0x198db1bcda1e13b1dcd91b8d8, 0x198ce1bd0e1e13d1dd3c1b8b2, 0x7136, 0x43c130141514014, 0x4412c,
  0x4452d, 0x4492e, 0x3ccdd, 0x3ccde, 0x44ccc, 0x3cccc, 0x450cc, 0x45504, 0x45923, 0x44905, 0x44924,
  0x44925, 0x3cc3d, 0x44cb5, 0x3ccb5, 0x198de1d11e3c8b2, 0x198ce1bd0e1e13f1ed3e031331b8b2,
  0x1bd1e210de1ecbf030b71b8b2, 0x3ccdb, 0x3ccdf, 0x45ce0, 0x3ccdc, 0x3cce1, 0x3cce2, 0x42ce3,
  0x300cc460e4, 0x260e5, 0x450e6, 0x3ccd1, 0x3cce7, 0x3cca7, 0x44926, 0x4490c, 0x46527, 0x46927,
  0x46d27, 0x47127, 0x47527, 0x47927, 0x47d27, 0x48127, 0x48527, 0x48927, 0x48d27, 0x49127, 0x44928,
  0x44913, 0x44915, 0x44929, 0x4492a, 0x3cc3e, 0x3ccd2, 0x3cce8, 0x104b5494b2, 0x104dc3c8b2,
  0x198e11d11f3c903, 0x198d1260d0, 0x3cce9, 0x3ccea, 0x3cceb, 0x304ed44cec, 0x3ccac, 0x3ccae,
  0x304ee44cec, 0x3ccef, 0x42cef, 0x3cca8, 0x3ccf0, 0x45cf1, 0x3ccf2, 0x3cc3f, 0x3ccf3, 0x3ccf4,
  0x198d2260d0, 0x3ccf5, 0x3ccf6, 0x42cf7, 0x3cca9, 0x3ccf8, 0x3ccf9, 0x42cf9, 0x4492b, 0x3cc40,
  0x3ccfa, 0x3ccfb, 0x3ccfc, 0x3cc41, 0x3ccfd]

private def reduceRowsBlock6 : Array Nat := #[
  0x3ccfe, 0x42cff, 0x141549813, 0x49d40, 0x22cd72283d014154a014, 0xecb54a4b2,
  0x22cda228db014d94a0d8, 0xecdc1b8b2, 0x42d00, 0x42d01, 0x1983d1bcd71e1301ed22030151b814,
  0x198db1bcda1e1311ed20030d91b8d8, 0x1c8d14a8d0, 0x1c8d24a8d0, 0x1c03d1bcd7065304ac151b814,
  0x1c0db1bcda065314acd91b8d8, 0x1c8de4b11e1b8b2, 0x1c8e14b11f1b903, 0x1c8ce4b10e1b8b2, 0x260b2,
  0x198de1d11e1fcb2, 0x4b523, 0x4b905, 0x4b924, 0x4b925, 0x4b926, 0x4b90c, 0x4bd27, 0x4c127,
  0x4c527, 0x4c927, 0x4cd27, 0x4d127, 0x4d527, 0x4d927, 0x4dd27, 0x4e127, 0x4e527, 0x4e927, 0x4b928,
  0x4b913, 0x4b915, 0x4b929, 0x4b92a, 0x4b92b, 0x4ed2c, 0x4f12d, 0x4b92e, 0x4f504, 0x134b2, 0x138b2,
  0x26017, 0x294211141114b2, 0x193e0313302cb2, 0x18bf030b702cb2, 0x26102, 0x26103, 0x260d0, 0x26104,
  0x43124, 0x26105, 0x26106, 0x5143, 0x7144, 0x26107, 0x353c02cb2, 0x26108, 0x4f945, 0x26109,
  0x2610a, 0x260d4, 0x1392f, 0x2c4de4fd1e1b8b2, 0x2610b, 0x2610c, 0x2610d, 0x50132, 0x2610f,
  0x29471114611508, 0x26110, 0x2601b, 0x50140, 0x354802cb2, 0x26111, 0x5149, 0x26112, 0x26113,
  0x26114, 0x26115, 0x26116, 0x26117, 0x26118, 0x508b5504b2, 0x508dc50cb2, 0x2c4e14fd1f1b903,
  0x1bd1e068be218de1b8b2, 0x26119, 0x2601f, 0x26021, 0x26023, 0x354a02cb2, 0x2611a, 0x2611b,
  0x26025, 0x26027, 0x26029, 0x2602b, 0x354b02cb2, 0x2602d, 0x2602f, 0x353302cb2, 0x43c1a1401b,
  0x198de1d11e21cb2, 0x43c1e1401f, 0x43c2014021, 0x198de1bd1e068be0654c1b8b2, 0x43c2214023,
  0x43c2414025, 0x43c2614027, 0x43c2814029, 0x43c2a1402b, 0x43c2c1402d, 0x43c2e1402f, 0x5101a02c1b,
  0x1bd1e250de014b71b8b2, 0x22d0e228ce4a0b2, 0x5101e02c1f, 0x5142002c21]

private def reduceRowsBlock7 : Array Nat := #[
  0x5102202c23, 0x5102402c25, 0x5142602c27, 0x5142802c29, 0x5102a02c2b, 0x5142c02c2d, 0x5102e02c2f,
  0x13d2f, 0x22d1e228de4a0b2, 0x22d1e228de224b2, 0x22d1f228e14a103, 0x198de5191e50cb2,
  0x198e15191f50d03, 0x2900e12838, 0x2900e12839, 0x218d151cd0, 0x218d251cd0, 0x1bcd72183d4ac151b814,
  0x1bcda218db4acd91b8d8, 0x22cd72283d0141522414, 0x22cda228db014d9224d8, 0x52123, 0x52505, 0x52524,
  0x52525, 0x52526, 0x5250c, 0x52927, 0x52d27, 0x53127, 0x53527, 0x53927, 0x53d27, 0x54127, 0x54527,
  0x54927, 0x54d27, 0x55127, 0x55527, 0x52528, 0x52513, 0x52515, 0x52529, 0x5252a, 0x5252b, 0x5592c,
  0x55d2d, 0x5252e, 0x56104, 0x198de1d11e234b2, 0x13cb2, 0x4200e0714d, 0x50c702cb2, 0x714e, 0x140b2,
  0x654f, 0x7150, 0x7139, 0x144b2, 0x43c1656417, 0x4280e12839, 0x10932, 0x10940, 0x5101656817,
  0x1492f, 0x198d1144d0, 0x198d2144d0, 0x1c0ce4fd0e1b8b2, 0x228d1130d0, 0x228d2130d0,
  0x57520570d956cd8, 0x575215711d56d1c, 0x575225701556c14, 0x198de25d1e258b2, 0x1f8b54a4b2,
  0x1f8dc1b8b2, 0x22d0e228ce224b2, 0x22d1f228e122503, 0x65214ad1d02d1c, 0x1983d25cd70141525814,
  0x198db25cda014d9258d8, 0x7140, 0x57923, 0x57d05, 0x57d24, 0x57d25, 0x57d26, 0x57d0c, 0x58127,
  0x58527, 0x58927, 0x58d27, 0x59127, 0x59527, 0x59927, 0x59d27, 0x5a127, 0x5a527, 0x5a927, 0x5ad27,
  0x57d28, 0x57d13, 0x57d15, 0x57d29, 0x57d2a, 0x57d2b, 0x5b123, 0x5b505, 0x5b524, 0x5b525, 0x5b526,
  0x5b50c, 0x5b927, 0x5bd27, 0x5c127, 0x5c527, 0x5c927, 0x5cd27, 0x5d127, 0x5d527, 0x5d927, 0x5dd27,
  0x5e127, 0x5e527, 0x5b528, 0x5b513, 0x5b515, 0x5b529]

private def reduceRowsBlock8 : Array Nat := #[
  0x5b52a, 0x5b52b, 0x10943, 0x1094f, 0x5e92c, 0x5ed2d, 0x57d2e, 0x5f104, 0x5f52c, 0x5f92d, 0x5b52e,
  0x5fd04, 0x50bf014b702cb2, 0x22d1e228de268b2, 0x60123, 0x60505, 0x60524, 0x60525, 0x60526,
  0x6050c, 0x60927, 0x60d27, 0x61127, 0x61527, 0x61927, 0x61d27, 0x62127, 0x62527, 0x62927, 0x62d27,
  0x63127, 0x63527, 0x60528, 0x60513, 0x60515, 0x60529, 0x6052a, 0x6052b, 0x6392c, 0x63d2d, 0x6052e,
  0x64104, 0x22d1e228de26cb2, 0x148b2, 0x22d1e228de270b2, 0x4200e07151, 0x190902d52, 0x6440e,
  0x4f953648d3, 0x182302d54, 0x191202d55, 0x182b02d56, 0x191b02d57, 0x182f02d58, 0x29c0e070ca12838,
  0x29c0e070ca12839, 0x5cbf058b702cb2, 0x22d1e228de278b2, 0x64d40, 0x1bd0e218ce1b8b2,
  0x5d20058d902cd8, 0x5d210591d02d1c, 0x5d220581502c14, 0x650a4, 0x650a5, 0x650a6,
  0x198ce25d0e258b2, 0x228d1150d0, 0x228d2150d0, 0x1bd1e218de1b8b2, 0x1bd1f218e11b903, 0x65523,
  0x65905, 0x65924, 0x65925, 0x65926, 0x6590c, 0x65d27, 0x66127, 0x66527, 0x66927, 0x66d27, 0x67127,
  0x67527, 0x67927, 0x67d27, 0x68127, 0x68527, 0x68927, 0x65928, 0x65913, 0x65915, 0x65929, 0x6592a,
  0x6592b, 0x68d2c, 0x6912d, 0x6592e, 0x69504, 0x130b2, 0x4200e12838, 0x4200e12839, 0x1612f, 0x2cb2,
  0x15cb2, 0x150b2, 0x160b2, 0x28d59, 0x698b6, 0x69d5a, 0x69d5b, 0x69d5c, 0x69d5d, 0x69d5e, 0x69d5f,
  0x69d60, 0x69d61, 0x69d62, 0x69d63, 0x69d64, 0x69d65, 0x69d66, 0x69d67, 0x28c31, 0x28c13, 0x69c31,
  0x69c34, 0x56817]

private def reduceRowsBlock9 : Array Nat := #[
  0x4200e0714d12838, 0x4200e0714d12839, 0x6a00e, 0x28d68, 0x28d69, 0x28c34, 0x648d3,
  0x4200e0715112838, 0x4200e0715112839, 0x6a4bd, 0x698bb, 0x6a00e12839, 0x698c4, 0x698c1, 0x698c5,
  0x698c2, 0x6a8b5, 0x6acf3, 0x6acf4, 0x6acfa, 0x6acfd, 0x6b16a, 0x6a8ba, 0x6b4b5, 0x6b8ba, 0x6bcd2,
  0x3041c6c0ec, 0x6c4ac, 0x6c4ae, 0x3041d6c0ec, 0x6c830, 0x6c833, 0x6ccb5, 0x6d036, 0x6a8cb,
  0x6b8cc, 0x6b4cc, 0x6d0cd, 0x6d4d1, 0x6b4dd, 0x6b4de, 0x6b4ce, 0x6d8cc, 0x6b4cb, 0x6b4db, 0x6b4df,
  0x6b4dc, 0x6b4e1, 0x6b4e2, 0x300cc6dce4, 0x6d8e6, 0x6b4e7, 0x6b4e8, 0x6b4e9, 0x6b4ea, 0x6b4eb,
  0x6b4ef, 0x6b4f0, 0x6b4f2, 0x6b4cf, 0x6b4f5, 0x6b4f6, 0x6b4f8, 0x6b4f9, 0x6b4fb, 0x6b4fc, 0x6b4fe,
  0x6ccba, 0x6e0f3, 0x6e0f4, 0x6e0fa, 0x6e0fd, 0x6e4b5, 0x6e96b, 0x5016c, 0x6b8ce, 0x6b8cb, 0x5016d,
  0x6ec0e, 0x6b8cf, 0x5016e, 0x5016f, 0x50170, 0x50171, 0x6cccc, 0x6f4ba6f172, 0x51173, 0x6f8e0,
  0x6fce3, 0x700e5, 0x51174, 0x6fcef, 0x6f8f1, 0x51175, 0x6fcf7, 0x6fcf9, 0x6fd00, 0x6fd01, 0x51176,
  0x51177, 0x6fcff, 0x6e4ba, 0x300cc70578, 0x6cccb, 0x708d2, 0x3041c70cec, 0x710ac, 0x710ae,
  0x3041d70cec, 0x708a4, 0x708a5, 0x708a6, 0x714f3, 0x714f4, 0x714fa, 0x714fd, 0x1f8ba,
  0x300cc71978, 0x50179, 0x5117a, 0x5017b, 0x5117c, 0x71c0e070ca, 0x720e8, 0x5017d, 0x5117e,
  0x5017f, 0x51180]

private def reduceRowsBlock10 : Array Nat := #[
  0x50181, 0x51182, 0x50183, 0x72436, 0x724cd, 0x728d1, 0x6ccce, 0x6cccf, 0x72ca7, 0x72ca8, 0x72ca9,
  0x6e4cc, 0x730b5, 0x4280e, 0x42947, 0xece8, 0x6ccdd, 0x6ccde, 0x734cc, 0x6cc3d, 0x6ccdb, 0x6ccdf,
  0x738e0, 0x6ccdc, 0x6cce1, 0x6cce2, 0x73ce3, 0x300cc704e4, 0x740e5, 0x734e6, 0x6cce7,
  0x300cc74578, 0x6cc3e, 0x6cce8, 0x6cce9, 0x6ccea, 0x6cceb, 0x6ccef, 0x73cef, 0x6ccf0, 0x738f1,
  0x6ccf2, 0x6cc3f, 0x6ccf5, 0x6ccf6, 0x73cf7, 0x6ccf8, 0x6ccf9, 0x73cf9, 0x73d00, 0x73d01, 0x6cc40,
  0x6ccfb, 0x6ccfc, 0x6cc41, 0x6ccfe, 0x73cff, 0x6e4cb, 0x748a4, 0x748d2, 0x3041c74cec, 0x750ac,
  0x750ae, 0x3041d74cec, 0x748a5, 0x748a6, 0x716b, 0x50184, 0x6e4ce, 0x70578, 0x6e4cf, 0x75585,
  0x75586, 0x75836, 0x758cd, 0x75cd1, 0x730ba, 0x1f8cc, 0x76187, 0x76188, 0x71978, 0x76189, 0x7618a,
  0x7618b, 0x5018c, 0x74585, 0x74586, 0x76500, 0x76501, 0x6e4dd, 0x6e4de, 0x768cc, 0x6e43d, 0x6e4db,
  0x6e4df, 0x76ce0, 0x6e4dc, 0x6e4e1, 0x6e4e2, 0x764e3, 0x300cc744e4, 0x770e5, 0x768e6, 0x6e4e7,
  0x774a7, 0x6e43e, 0x6e4e8, 0x6e4e9, 0x6e4ea, 0x6e4eb, 0x6e4ef, 0x764ef, 0x774a8, 0x6e4f0, 0x76cf1,
  0x6e4f2, 0x6e43f, 0x6e4f5, 0x6e4f6, 0x764f7, 0x774a9, 0x6e4f8, 0x6e4f9, 0x764f9, 0x6e440, 0x6e4fb,
  0x6e4fc, 0x6e441]

private def reduceRowsBlock11 : Array Nat := #[
  0x6e4fe, 0x764ff, 0x6e430, 0x6e4a7, 0x6e433, 0x6e4a8, 0x6e4a9, 0x730cc, 0x5118d, 0x5118e, 0x5118f,
  0x74578, 0x51012, 0x77830, 0x77833, 0x77ca4, 0x77ca5, 0x77ca6, 0x104e8, 0x730cb, 0x1f8cf, 0x1f8ce,
  0x1f8cb, 0x3cb7, 0x10990, 0x104cb, 0x78191, 0x78415, 0x784d9, 0x6f192, 0x6f193, 0x7851d, 0x51194,
  0x78995, 0x78d47, 0x51196, 0x51197, 0x50198, 0x78587, 0x78588, 0x78589, 0x7858a, 0x7858b, 0x51199,
  0x5119a, 0x5119b, 0x5119c, 0x5119d, 0x5119e, 0x5119f, 0x511a0, 0x511a1, 0x511a2, 0x511a3, 0x511a4,
  0x511a5, 0x511a6, 0x791a7, 0x791a8, 0x791a9, 0x791aa, 0x7941c, 0x7941d, 0x730cf, 0x730ce, 0x798ef,
  0x79cf1, 0x798f7, 0x798f9, 0x79900, 0x79901, 0x798ff, 0x40be, 0x79ce0, 0x798e3, 0x7a0e5, 0x7a585,
  0x7a586, 0x7a80e, 0x109ab, 0x7adac, 0x65ad, 0x7b1ae, 0x7b599, 0x7b9af, 0x7bdb0, 0x789b1, 0x21b2,
  0x7b59a, 0x7b59b, 0x511b3, 0x7b59c, 0x7b59d, 0x7c1b4, 0x7b59e, 0x7b59f, 0x7b5a0, 0x7b5a1, 0x7b5a2,
  0x7b5a3, 0x7b5a4, 0x7b5a5, 0x7b5a6, 0x7c5a7, 0x7c5a8, 0x7c5a9, 0x7c5aa, 0x755b5, 0x755b6, 0x755b7,
  0x7303d, 0x7303e, 0x7303f, 0x73040, 0x73041, 0x7c8ef, 0x7ccf1, 0x7c8f7, 0x7c8f9, 0x7c900, 0x7c901,
  0x7c8ff, 0x7cce0, 0x7c8e3, 0x7d0e5, 0x7d5b8, 0x42142, 0x34b7]

private def reduceRowsBlock12 : Array Nat := #[
  0x3533, 0x7d8be, 0x680e, 0x501b9, 0x353c, 0x511ba, 0x7dd85, 0x7e1bb, 0x3548, 0x7e4b7, 0x7dd86,
  0x65bc, 0x300cc, 0x7e9bd, 0x6f1be, 0x7e1bf, 0x354a, 0x501c0, 0x511c1, 0x7e1c2, 0x354b, 0x5dc3,
  0x511c4, 0x501c5, 0x511c6, 0x7c1c7, 0x501c8, 0x511c9, 0x511ca, 0x511cb, 0x511cc, 0x511cd, 0x511ce,
  0x501cf, 0x511d0, 0x511d1, 0x511d2, 0x501d3, 0x511d4, 0x511d5, 0x511d6, 0x501d7, 0x501d8, 0x51016,
  0x5104d, 0x51052, 0x51053, 0x51055, 0x51056, 0x7ec15, 0x7ecd9, 0x5105b, 0x5105c, 0x51064, 0x51065,
  0x51066, 0x745b5, 0x745b6, 0x745b7, 0x51067, 0x51068, 0x5101a, 0x7ed1d, 0x5106c, 0x5106d, 0x5106e,
  0x51075, 0x51076, 0x51077, 0x51078, 0x51079, 0x5107a, 0x5101e, 0x51022, 0x5107b, 0x5107e, 0x51083,
  0x51084, 0x51085, 0x51086, 0x51087, 0x51088, 0x51089, 0x5108b, 0x51024, 0x5102a, 0x5108c, 0x51090,
  0x51091, 0x51092, 0x51093, 0x51094, 0x51096, 0x5102e, 0x51098, 0x51099, 0x5109a, 0x5109b, 0x5109d,
  0x51018, 0x51019, 0x3041c7f0ec, 0x3041d7f0ec, 0x51420, 0x51426, 0x51428, 0x5142c, 0x439b8,
  0x109d9, 0x7f5da, 0x6f1db, 0x7f9dc, 0x7fddd, 0x680e071de, 0x501df, 0x109e0, 0x7f5e1, 0x6f1e2,
  0x7e9e4801e3, 0x7b1e5, 0x4f9e6, 0x789e7, 0x789e8, 0x71e9, 0x5dea, 0x804b7, 0x6e9eb, 0x809a7]

private def reduceRowsBlock13 : Array Nat := #[
  0x7adec, 0x80d6a, 0x811ed, 0x71ee, 0x8156b, 0x71eb819ef, 0x71f0, 0x71f1, 0x809a8, 0x81d4f, 0x65f2,
  0x821f3, 0x71f4, 0x811f5, 0x71f6, 0x501f7, 0x809a9, 0x109f8, 0x7adf9, 0x6f1fa, 0x811fb, 0x71fc,
  0x71fd, 0x809aa, 0x501fe, 0x65ff, 0x7ea00, 0x81201, 0x50202, 0x50203, 0x50204, 0x7205, 0x82206,
  0x50207, 0x50208, 0x50209, 0x5020a, 0x5020b, 0x5020c, 0x5020d, 0x5020e, 0x5020f, 0x50210, 0x50211,
  0x1e1b8, 0x825bb, 0x825bf, 0x825c2, 0x7c0e2, 0x7c0e7, 0x82845, 0x82e12, 0x7213, 0x6f214, 0x7a5b5,
  0x7a5b6, 0x7a5b7, 0x7215, 0x43a16, 0x715a, 0x10a17, 0x6f218, 0x6619, 0x661a, 0x6f21b, 0x721c,
  0x721d, 0x721e, 0x43814, 0x715b, 0x715c, 0x10a1f, 0x6f220, 0x6621, 0x7222, 0x7223, 0x7224, 0x7225,
  0x4391c, 0x715d, 0x715e, 0x715f, 0x7160, 0x7161, 0x7162, 0x7163, 0x7164, 0x7165, 0x7166, 0x7167,
  0x43907, 0x4390f, 0x43910, 0x626, 0x82e27, 0x7ae28, 0x82e29, 0x82e2a, 0x82e2b, 0x82e2c, 0x82e2d,
  0x82e2e]

/-- A row is a list of 20-bit groups: action list (10 bits) and lookahead set (10 bits). Groups are in
the order of their least lookaheads, the end of the text left out. -/
def reduceRows : Array (Array Nat) := #[
  reduceRowsBlock0, reduceRowsBlock1, reduceRowsBlock2, reduceRowsBlock3, reduceRowsBlock4,
  reduceRowsBlock5, reduceRowsBlock6, reduceRowsBlock7, reduceRowsBlock8, reduceRowsBlock9,
  reduceRowsBlock10, reduceRowsBlock11, reduceRowsBlock12, reduceRowsBlock13]

private def actionListsBlock0 : Array Nat := #[
  0x0, 0x2, 0x800000, 0x80315d, 0x80212d, 0x802147, 0x80315d80212d, 0x8002ba, 0x800228, 0x824328,
  0x84a327, 0x896427, 0x800100, 0x800200, 0x808162, 0x82225e, 0x82225e80212d, 0x80012e, 0x806177,
  0x800214, 0x80022f, 0x800230, 0x800106, 0x80012c, 0x800276, 0x81c277, 0x82a337, 0x82a336,
  0x83c335, 0x844335, 0x850437, 0x850436, 0x85443a, 0x854439, 0x860437, 0x860436, 0x870537,
  0x870536, 0x87453a, 0x874539, 0x87453c, 0x87453b, 0x876537, 0x876536, 0x88c63c, 0x88c63b,
  0x88e637, 0x88e636, 0x800251, 0x800314, 0x80025a, 0x800351, 0x800414, 0x80035a, 0x8001a9,
  0x8001c38001c2, 0x800180, 0x800181, 0x8001c3, 0x8001c2, 0x80816280212d, 0x8002ab, 0x8003ab,
  0x8004ab, 0x8005ab, 0x8006ab, 0x80a21d, 0x80a31d, 0x800124, 0x800316, 0x80a41c, 0x80a229,
  0x872529, 0x888629, 0x80032b, 0x80042b, 0x80010f, 0x804201, 0x80021f, 0x800220, 0x800221,
  0x800222, 0x800273, 0x800275, 0x800210, 0x812301, 0x800301, 0x817325, 0x81a308, 0x800308,
  0x82431e, 0x800311, 0x800312, 0x826317, 0x824319, 0x82431b, 0x82831f, 0x828320, 0x800322,
  0x800323, 0x800373, 0x83837a, 0x83a37c, 0x800401, 0x83e401, 0x842408, 0x800408, 0x81a408,
  0x800411, 0x800412, 0x84c47c, 0x800416, 0x800226, 0x84e419, 0x80a22a, 0x80a41d, 0x82a437,
  0x840469, 0x860474, 0x86247a, 0x80027d, 0x864401, 0x800501, 0x86857f, 0x800508, 0x842508,
  0x800578, 0x800215]

private def actionListsBlock1 : Array Nat := #[
  0x800326, 0x80a51c, 0x850537, 0x86e569, 0x85453a, 0x876574, 0x87857a, 0x84037d, 0x80037d,
  0x87c501, 0x860537, 0x87e574, 0x88267f, 0x800608, 0x888618, 0x870637, 0x87463a, 0x87463c,
  0x88e674, 0x84047d, 0x80047d, 0x876637, 0x890674, 0x89a718, 0x88c73c, 0x89e773, 0x84057d,
  0x80057d, 0x88e737, 0x8a0774, 0x8a6818, 0x8b2918, 0x85651a, 0x85851a, 0x89861a, 0x89871a,
  0x800256, 0x800356, 0x800456, 0x8003aa, 0x8004aa, 0x8005aa, 0x8001c18001c0, 0x83c344, 0x83c389,
  0x800344, 0x800389, 0x800266, 0x800445, 0x800545, 0x80012d, 0x80816280012d, 0x800147, 0x8002a0,
  0x800257, 0x80115d, 0x80c19480115d80012d, 0x80c19480012d, 0x80c194, 0x8002bb, 0x80c19480115d,
  0x83c358, 0x80025e, 0x80115d80012d, 0x8001a980212d, 0x800259, 0x800359, 0x80025e80c19480012d,
  0x8001bb, 0x80036a, 0x82225e8001a980212d, 0x80025e80012d, 0x8002c8, 0x800242,
  0x8202c181e2c0808162, 0x800194, 0x80018d, 0x8342a9, 0x810194, 0x80028b, 0x800241, 0x80028a,
  0x80029e, 0x80026e, 0x800342, 0x80036c, 0x80036d, 0x8002ab80022f, 0x800233, 0x800234,
  0x8002b5800233, 0x8002b5, 0x8002a5, 0x8001a6, 0x8001a4, 0x8002b8, 0x8002b7, 0x800296, 0x80e299,
  0x8002b6, 0x8002a7, 0x832297, 0x8002a1, 0x806299, 0x80029f, 0x8003a8, 0x8003b5, 0x800396,
  0x85c379, 0x85c37983c335, 0x85c379844335, 0x8003b9, 0x8003b8, 0x8003b7, 0x8003b4, 0x83c39c,
  0x80039c, 0x8004b5, 0x800493, 0x832497, 0x8004a2, 0x8004b9, 0x80049d, 0x8005b5, 0x800593,
  0x80059d, 0x800693, 0x836798]

private def actionListsBlock2 : Array Nat := #[
  0x80639a, 0x87a39a, 0x80a236, 0x800252, 0x80024f, 0x81833d, 0x800355, 0x80032f, 0x800333,
  0x824336, 0x824339, 0x800352, 0x82433d, 0x800341, 0x81019480012d, 0x81e42f, 0x80042f, 0x800433,
  0x84e436, 0x85243d, 0x84e439, 0x84e43d, 0x84e43b, 0x800442, 0x800454, 0x800441, 0x87253b,
  0x872536, 0x81e32f, 0x820330, 0x8001a480012d, 0x800296800252, 0x800234800233, 0x82033081e32f,
  0x80023080022f, 0x80026b, 0x814346, 0x80032e, 0x836346, 0x83634d, 0x836348, 0x856446, 0x858446,
  0x80054c, 0x80024e, 0x800243, 0x80022e, 0x800354, 0x8002ab80023080022f, 0x8002b5800234800233,
  0x8002c4, 0x800184, 0x810194800184, 0x814346846332, 0x846332, 0x836346846332, 0x836346836332,
  0x836332, 0x8002ab800230, 0x8002b5800234, 0x800284, 0x800284810194, 0x80018480012d,
  0x81019480018480012d, 0x84a249, 0x80016280012d, 0x800162, 0x80024b, 0x8001c1, 0x82c171,
  0x800363800333, 0x800363, 0x800384, 0x836331, 0x800484, 0x800584, 0x80025e8001a480012d,
  0x8202c181e2c0, 0x8001c0, 0x8002c2, 0x83e360, 0x81e2c0, 0x82433680a236, 0x82c271, 0x86043682a336,
  0x84e436824336, 0x876536850436, 0x87253684e436, 0x88e636870536, 0x8001c8, 0x84835f, 0x85445f,
  0x86c45f, 0x88655f, 0x87455f, 0x89465f, 0x88c65f, 0x8a275f, 0x8a475f, 0x8ae85f, 0x8b085f,
  0x8b895f, 0x8ba95f, 0x8bea5f, 0x80a25c, 0x8003c8, 0x800107, 0x802165, 0x806164, 0x840264,
  0x86e364, 0x88a464, 0x89c564, 0x8ac664, 0x80e1af80c194, 0x8061ad, 0x8402ad, 0x86e3ad, 0x88a4ad,
  0x89c5ad, 0x800288, 0x806264, 0x8062ad, 0x840364, 0x8403ad, 0x86e464, 0x86e4ad, 0x88a564]

private def actionListsBlock3 : Array Nat := #[
  0x88a5ad, 0x89c664, 0x89c6ad, 0x8ac764, 0x806113, 0x80013e, 0x80023e, 0x800330, 0x800334,
  0x820430, 0x800430, 0x800434, 0x8b6764, 0x800285, 0x800286, 0x800287, 0x800182, 0x800140,
  0x80e1af, 0x82e2af, 0x8002b2, 0x83227b, 0x8003b2, 0x8004b2, 0x8b6864, 0x806267, 0x840367,
  0x806367, 0x840467, 0x86e467, 0x86e567, 0x88a567, 0x88a667, 0x89c667, 0x89c767, 0x8ac767,
  0x8ac867, 0x8b6867, 0x8b6967, 0x80025b, 0x80035b, 0x80045b, 0x80055b, 0x800283, 0x800272,
  0x800192, 0x8002c7, 0x8002b1, 0x8002cb, 0x80027b, 0x8002bf, 0x8002cf, 0x8322cc, 0x80028c,
  0x80029b, 0x80033e, 0x800250, 0x806213, 0x8001ac, 0x8003ae, 0x800291, 0x8002ce, 0x8002b0,
  0x8004ae, 0x806364, 0x8063ad, 0x8005ae, 0x80e3a3, 0x8004b3, 0x840464, 0x8404ad, 0x8002cc,
  0x86e564, 0x8005b3, 0x86e5ad, 0x8005b2, 0x8a86b3, 0x8406b3, 0x8006b3, 0x88a664, 0x88a6ad,
  0x8b47b3, 0x86e7b3, 0x89c764, 0x89c7ad, 0x8bc8b3, 0x88a8b3, 0x8ac864, 0x8b6964, 0x800282,
  0x800270, 0x80e2af, 0x8002c5, 0x8002c6, 0x8202c1, 0x8002be, 0x800383, 0x800370, 0x82e3af,
  0x8001c7, 0x8001ce8001c7, 0x800353, 0x8002ca, 0x83237b, 0x80037b, 0x8402cd, 0x8aa5a3, 0x800165,
  0x800138, 0x800203, 0x806104, 0x800105, 0x8002c0, 0x8002c1, 0x8002c3, 0x81a20a, 0x840204,
  0x800303, 0x83e361, 0x806313, 0x8002c9, 0x800372, 0x8002d0, 0x800403, 0x8002bc, 0x8002bd,
  0x840368, 0x8002d1]

private def actionListsBlock4 : Array Nat := #[
  0x800395, 0x800503, 0x86e468, 0x840468, 0x806464, 0x8002cd, 0x89266f, 0x840564, 0x86e568,
  0x88a568, 0x86e664, 0x88a668, 0x89c668, 0x88a764, 0x89c768, 0x89c864, 0x8ac964, 0x8b6a64,
  0x800109, 0x80610d, 0x8302af, 0x84020d, 0x80020e, 0x800382, 0x85a3af, 0x80628e, 0x800290,
  0x85e3af, 0x866304, 0x86a30d, 0x86630d, 0x800483, 0x8684af, 0x80638f, 0x80627e, 0x880404,
  0x88440d, 0x88040d, 0x1, 0x80020c, 0x800238, 0x800302, 0x80030b, 0x80030c, 0x800309, 0x80040c,
  0x80050c]

/-- An action list holds up to three 24-bit actions. 1 accepts and 2 recovers; any other is a
reduction: nonterminal (8 bits), child count (4), penalty (1), shape (10), and the top bit. -/
def actionLists : Array (Array Nat) := #[
  actionListsBlock0, actionListsBlock1, actionListsBlock2, actionListsBlock3, actionListsBlock4]

private def lookaheadSetsBlock0 : Array Nat := #[
  0x1dffefffffffffe74fffffffffffffffffffffffff, 0x1, 0x8008001100,
  0x100000800000000031ff717c00008400020100200, 0x1fffc0000000000000, 0x100, 0x8008001000,
  0x303ffeffe610fe009c0000033997f97df6ceb, 0x10000002020,
  0x140000800000000001ff63fc00008000024001210, 0x10000000000000000000008000000000,
  0x100000800000001031fffffc00008500022100210, 0x10000000000000000000000000000100,
  0x10000000000000000000008008001100, 0x100000800000000001ff63fc00008000020000210,
  0x10000000000000000000208008003100, 0x10000000000000000000208008003000,
  0x100000800000000001ff63fc00008208024003210, 0x140000800000000001ff63fc00008000024003210,
  0x140000800000000001ff63fc00008000064001210, 0x200000003000,
  0x100000800000000001ff63fc00008000024001210, 0x1100, 0x200000000000,
  0x100000800000000001ff63fc00008008028001210, 0x200000001000, 0x8000000000,
  0x100000800000000001ff63fc00008200020000210, 0x3000, 0x140000800000000001ff63fc00008000024000210,
  0x100004800000000001ff63fc00008000020001210, 0x100000800000000001ff63fc00008008020000210,
  0x100000800000000001ff63fc00008000060000210, 0x100000800000000001ff63fc00008608024003200,
  0x140000800000000001ff63fc00008400024003200, 0x140000800000000001ff63fc00008400064001200,
  0x100000800000000001ff63fc00008408028001200, 0x140000800000000001ff63fc00008400024000200,
  0x100004800000000001ff63fc00008400020001200, 0x100000800000000001ff63fc00008400060000200,
  0x100000800000000001ff63fc00008408020000200, 0x100000800000000001ff63fc00008600020000200,
  0x100000800000000001ff63fc00008400020000200, 0x100000800000000031ff717c00008608024103200,
  0x140000800000000031ff717c00008400024103200, 0x140000800000000031ff717c00008400064101200,
  0x100000800000000031ff717c00008408028101200, 0x140000800000000031ff717c00008400024100200,
  0x100004800000000031ff717c00008400020101200, 0x100000800000000031ff717c00008408020100200,
  0x100000800000000031ff717c00008600020100200, 0x100000800000000031ff717c00008400060100200,
  0x140030bffeffe610fffffffc0003b997fb7ff76fb, 0x140030bffeffe610fffffffc0003bd97fb7ff76fb,
  0x303ffeffe610fe009c0000033997f97ff6ceb, 0x100000800000000001ff63fc00008400020001210,
  0x140000800000000001ff63fc00008400020001210, 0x140030bffeffe610fffffffc0003bd97fb7ff7efb,
  0x100030bffeffe610fffffffc0003bd97fb7ff7efb, 0x6000200000000000000028000000100004003000,
  0x200010000000040028000000300000003000, 0x200000000000040028000000300008001000,
  0x1ffeffe610fe009c0200033980012144cca, 0x100000800000000001ff63fc00008400020000210,
  0x200000000000040028000000100008001000, 0x200000000000040028000000100000001000, 0x8001000,
  0x140000800000001031ff7ffc00008500024101000, 0x800000000000002000000,
  0x140000800000001031ff7ffc00008500024101210, 0x140000800000001031fffffc00008500026101000,
  0x140000800000001031fffffc00008500026101210, 0x323fffffe610fe409e8000037b9ff9ffffdeb,
  0x323fffffe610fe409e8000037b9ff9fff7deb, 0x1ffef00600c00000000001110000004045a,
  0x140000800000001031ff7ffc00008400024101200, 0x140000800000001031fffffc00008500026100210,
  0x100000800000001031fffffc00008708026103210, 0x140000800000001031fffffc00008500026103210,
  0x140000800000001031fffffc00008500066101210, 0x100000800000001031fffffc00008500026101210,
  0x100000800000001031fffffc0000850802a101210, 0x100004800000001031fffffc00008500022101a10,
  0x303ffeffe610fe009c00000339f7f97ff7ceb, 0x100000800000001031fffffc00008700022100210,
  0x600303ffeffe610fe009c0000033997f97ff7ceb, 0x200303ffeffe610fe009c0000033997f97ff7ceb,
  0x100000800000001031fffffc00008508022100210, 0x100000800000001031fffffc00008500062100210,
  0x303ffeffe610fe009c0000033997f97ff64eb, 0x303ffeffe610fe009c0000033997f9fff6ceb,
  0x303ffeffe610fe009c0000033997f93ff6ceb, 0x303ffeffe610fe009c00000339d7f97ff6ceb,
  0x303ffeffe610fe009c0000033d97f97ff6ceb, 0x400303ffeffe610fe009c0000033997f97ff6ceb,
  0x303ffeffe610fe009c0000033987f97df4cca, 0x23fffffe610fe409e820003ff8801a147dca,
  0x140000800000001031ff7ffc00008400024101210, 0x21fffffe610fe409e8000037b8801a147dca,
  0x140000800000001031fffffc00008400026101210, 0x100000800000001031fffffc00008400026101210,
  0x100004800100001031fffffdfffc870802e103b10, 0x200000000000000000000000000000000000,
  0x100004800100001031fffffdfffc870806e103b10, 0x140000800000001031fffffc00008400026100210,
  0x100004800000001031fffffdfffc870806e103b10, 0x100000800000001031ff7d7c00000000020100210,
  0x100000800000001031bf7d7c00000208024102210, 0x100004800000001031fffffc0000870806e103a10,
  0x3ffeffe610fe001c0200033980010144cca, 0x100000800000001031fffd7c00008400022100210,
  0x28000000100000000000, 0x200010000000000000000000000000000000,
  0x140000800000001031bf7d7c00000000024102210, 0x6000200000000000000000000000000004000000,
  0x100000800000001031bffd7c00008608026102210, 0x40028000000100000001000,
  0x140000800000001031bf7d7c00000000064100210, 0x3ffeffe610fe009c0200033980012144cca,
  0x10000000000000000000008000001100, 0x8000000, 0x140000800000001031bffd7c00008400026102210,
  0x3ffeffe610fe009c0200033d8001a144cca, 0x8000001000, 0x100000800000001031bf7d7c00000008028100210,
  0x6000200000000000000000000000000004003000, 0x200010000000000028000000300000001000,
  0x140000800000001031bffd7c00008400066100210]

private def lookaheadSetsBlock1 : Array Nat := #[
  0x140000800000001031bf7d7c00000000024100210, 0x100004800000001031bf7d7c00000000020100a10,
  0x100000800000001031ff7d7c00000008020101210, 0x200000000000000028000000100008000000,
  0x200000000000000000000000000008000000, 0x3ffeffe610fe009c020003398001a144cca,
  0x200000000000000000000000200000001000, 0x100000800000001031bffd7c0000840802a100210,
  0x140000800000001031fffffdfffc8500066103310, 0x140000800000001031bffd7c00008400026100210,
  0x200000000000000000000000000000001000, 0x40028000000100000000000,
  0x100000800000001031fffffdfffc8500022103310, 0x100004800000001031bffd7c00008400022100a10,
  0x100000800000001031bf7d7c00000008020100210, 0x100000800000001031bf7d7c00000200020100210,
  0x100000800000001031bf7d7c00000000060100210, 0x200000000000000028000000300000001000,
  0x100000800000001031ff7d7c00000000020101210, 0x200000000000000028000000100000002000,
  0x200010000000000000000000200000001000, 0x100000800000001031fffffdfffc8508062100310,
  0x100000800000001031fffd7c00008400022101210, 0x28000000100000002000,
  0x140000800000001031fffffc00008500066103210, 0x100000800000001031bf7d7c00000000020100210,
  0x100000800000001031bffd7c00008408022100210, 0x100000800000001031bffd7c00008600022100210,
  0x100000800000001031bffd7c00008400062100210, 0x100000800000001031fffffc00008500002100210,
  0x100000800000001031bffd7c00008400022100210, 0x100000800000001031fffffdfffc8700022101310,
  0x140000800000001031fffffdfffc8500026100310, 0x100000800000001031fffffc00008700002100210,
  0x100000800000001031fffffdfffc8700022100310, 0x7ffef80600c0000c000001110000404245a,
  0x6000000010000000000800000000008006003000, 0x100004800000000031ff7ffc0000020806c103a10,
  0x160002800100001031fffffc000085080e6303a10, 0x6000000010000000000800000000008006000000,
  0x100006800000001031ff7ffc0000830806c103a10, 0x100006800000001031ff7ffc0000830806e103a10,
  0x100004800000000031fffffc0000020806e103a10, 0x100006800100001031fffffc0000870806e103a10,
  0x100806800000001031fffffc0000870806e103a10, 0x100006800000001031ff7ffc0000870806e103a10,
  0x100006800000001031fffffc0000830806c103a10, 0x100006800000001031fffffc0000870806e103a10,
  0x100004800000001031fffffc00008708026103a10, 0x200010000000000000000000000008000000,
  0x100004800000000031fffffc0000870806e103a10, 0x100004800000001031fffffc0000870806c103a10,
  0x100004800000001031fffd7c0000870806e103a10, 0x160000800000001031fffffc000081000e6303210,
  0x160000800000001031fffffc000085000e6303210, 0x100004800000001031bffd7c0000860802e102a10,
  0x100004800000001031bffd7c0000020806e102a10, 0x100004800000001031bffd7c0000860806e102a10,
  0x100004800000001031fffffc0000830806e103210, 0x100004800000001031fffffc0000870806e103210,
  0x100006800000001031fffffc0000830806e103a10, 0x100006800000001031fffffc0000860806e103a10,
  0x100006800000001031ffff7c0000870806e103a10, 0x100004800000001031fffd7c0000860806e103a10,
  0x200000000000000028000000000000000000, 0x400000000000,
  0x140000800000000031ff7ffc00000000064103210, 0x100004800000001031fffffc0000870802e103a10,
  0x160000800000001031fffffc000085000e6303a10, 0x4000000010000000000800000000008006101100,
  0x208008003000, 0x120000800000001031fffffc000085000e6303210,
  0x140002800000001031ff7ffc00008100064103210, 0x140002800000001031ff7ffc00008100066103210,
  0x100000800000001031ff7ffc00008708024103210, 0x100000000000000208004003000,
  0x100000800000001001ff038c00000208024103200, 0x100000800000001001ffbffc00000208024103210,
  0x10000080000000100080000c00000208004103200, 0x10000080000000100080000800000208004103200,
  0x100000800000001001ff83fc00000208024103200, 0x10000080000000100080038c00000208004103200,
  0x10000080000000100080030c00000208004103200, 0x10000080000000100080020c00000208004103200,
  0x100000800000001001ff8ffc00000208024103200, 0x100000000000001001ffbffc00000208024003010,
  0x1000008000000010009e038c00000208004103200, 0x10000080000000100080000000000208004103200,
  0x100000800000001001fffffc00000208024103210, 0x100000000000001001fffffc00000208024003010,
  0x100000800000001031fffffc00000208024103210, 0x140000800000000031fffffc00000000066103210,
  0x140000800000001001fffffc00000000024103210, 0x140000000000001001fffffc00000000024003010,
  0x4000000000000100000000000000000004003000, 0x140000800000001031fffffc00000000024103210,
  0x140000800000001031ff7ffc00008500024103210, 0x140000800000001001ff038c00000000024103200,
  0x160002800000001031fffffc00008500066103210, 0x140000800000001001ffbffc00000000024103210,
  0x14000080000000100080000c00000000004103200, 0x14000080000000100080000800000000004103200,
  0x140000800000001001ff83fc00000000024103200, 0x14000080000000100080038c00000000004103200,
  0x14000080000000100080030c00000000004103200, 0x14000080000000100080020c00000000004103200,
  0x140000800000001001ff8ffc00000000024103200, 0x140000000000001001ffbffc00000000024003010,
  0x1400008000000010009e038c00000000004103200, 0x14000080000000100080000000000000004103200,
  0x140802800000001031fffffc00008500066103210, 0x140002800000001031ff7ffc00008500066103210,
  0x140002800000001031fffffc00008100064103210, 0x100000800000001031fffffc0000870802e103210,
  0x140000800000001031bffd7c00008400066102210, 0x140002800000001031fffffc00008500066103210,
  0x208004003000, 0x140000800000001031ff7ffc00008500064101210,
  0x4000000000000100000000000000000044001000, 0x140000800000001001ff038c00000000064101200,
  0x140000800000001001ffbffc00000000064101210, 0x14000080000000100080000c00000000044101200,
  0x14000080000000100080000800000000044101200, 0x140000800000001001ff83fc00000000064101200,
  0x14000080000000100080038c00000000044101200, 0x14000080000000100080030c00000000044101200,
  0x14000080000000100080020c00000000044101200, 0x140000800000001001ff8ffc00000000064101200]

private def lookaheadSetsBlock2 : Array Nat := #[
  0x140000000000001001ffbffc00000000064001010, 0x1400008000000010009e038c00000000044101200,
  0x14000080000000100080000000000000044101200, 0x140000800000001001fffffc00000000064101210,
  0x140000000000001001fffffc00000000064001010, 0x140000800000001031fffffc00000000064101210,
  0x140000800000000031fffffc00008500066103210, 0x140000800000001031fffffc00008500064103210,
  0x10000000000800000000008002000000, 0x7ffef00600c00000000001110000004045a,
  0x6000000010000000000800000000008006103100, 0x140000800000001031fffd7c00008500066103210, 0x1000,
  0x2000, 0x4000000000000000000000000000000004000000, 0x80200000,
  0x100000800000001001fffffc00000008028101210, 0x100000000000001001fffffc00000008028001010,
  0x100000000000000008008001000, 0x140002800000001031fffffc00008100066103210,
  0x140002800000001031fffffc00008400066103210, 0x100000800000001031fffffc00000008028101210,
  0x100000800000001031ff7ffc00008508028101210, 0x140002800000001031ffff7c00008500066103210,
  0x140000800000001031fffd7c00008400066103210, 0x100000800000001001ff038c00000008028101200,
  0x100000800000001001ffbffc00000008028101210, 0x10000080000000100080000c00000008008101200,
  0x10000080000000100080000800000008008101200, 0x100000800000001001ff83fc00000008028101200,
  0x10000080000000100080038c00000008008101200, 0x10000080000000100080030c00000008008101200,
  0x10000080000000100080020c00000008008101200, 0x100000800000001001ff8ffc00000008028101200,
  0x100000000000001001ffbffc00000008028001010, 0x1000008000000010009e038c00000008008101200,
  0x10000080000000100080000000000008008101200, 0x140000800000001031bffd7c00000000066102210,
  0x100000800000001031fffffc00008500066103210, 0x4000000000000000000000000000000064001000,
  0x100000800000001031bffd7c00008608062100210, 0x100000800000001031fffd7c00000000022100210,
  0x100000800000001031fffffc00008500022103210, 0x8000000100, 0x28000000100000003000,
  0x100004800000001031ff7ffc00008500020101a10, 0x400000000100000000000000000000001800,
  0x100004800000001001ff038c00000000020101a00, 0x100004800000001001ffbffc00000000020101a10,
  0x10000480000000100080000c00000000000101a00, 0x10000480000000100080000800000000000101a00,
  0x100004800000001001ff83fc00000000020101a00, 0x10000480000000100080038c00000000000101a00,
  0x10000480000000100080030c00000000000101a00, 0x10000480000000100080020c00000000000101a00,
  0x100004800000001001ff8ffc00000000020101a00, 0x100004000000001001ffbffc00000000020001810,
  0x1000048000000010009e038c00000000000101a00, 0x10000480000000100080000000000000000101a00,
  0x100004800000001001fffffc00000000020101a10, 0x100004000000001001fffffc00000000020001810,
  0x100004800000001031fffffc00000000020101a10, 0x400000000000000000000000000000001800,
  0x28000000300000001000, 0x4000000000000000000000000000000004001000,
  0x100000800000001031fffd7c00000008022101210, 0x200000000000000028000000100008002000,
  0x100000800000001031fffd7c00008408022101210, 0x6000000000000000000000000000000004003000,
  0x2000000000000000000000000000000004003000, 0x28000000100008002000,
  0x100000800000001031fffffc00008508062100210, 0x140000800000001031ff7ffc00008500024100210,
  0x4000000000000100000000000000000004000000, 0x140000800000001001ff038c00000000024100200,
  0x140000800000001001ffbffc00000000024100210, 0x14000080000000100080000c00000000004100200,
  0x14000080000000100080000800000000004100200, 0x140000800000001001ff83fc00000000024100200,
  0x14000080000000100080038c00000000004100200, 0x14000080000000100080030c00000000004100200,
  0x14000080000000100080020c00000000004100200, 0x140000800000001001ff8ffc00000000024100200,
  0x140000000000001001ffbffc00000000024000010, 0x1400008000000010009e038c00000000004100200,
  0x14000080000000100080000000000000004100200, 0x140000800000001001fffffc00000000024100210,
  0x140000000000001001fffffc00000000024000010, 0x140000800000001031fffffc00000000024100210,
  0x140000800000000031fffffc00008500026101210, 0x100000800000000031fffffc00008500022100210,
  0x100000800000001031fffffc00008500006101210, 0x40000100, 0x20000000,
  0x100000800000001031ff7ffc00008508020100210, 0x100000000000000008000000000,
  0x100000800000001001ff038c00000008020100200, 0x100000800000001001ffbffc00000008020100210,
  0x10000080000000100080000c00000008000100200, 0x10000080000000100080000800000008000100200,
  0x100000800000001001ff83fc00000008020100200, 0x10000080000000100080038c00000008000100200,
  0x10000080000000100080030c00000008000100200, 0x10000080000000100080020c00000008000100200,
  0x100000800000001001ff8ffc00000008020100200, 0x100000000000001001ffbffc00000008020000010,
  0x1000008000000010009e038c00000008000100200, 0x10000080000000100080000000000008000100200,
  0x100000800000001031ff7ffc00008700020100210, 0x100000000000000200000000000,
  0x100000800000001001ff038c00000200020100200, 0x100000800000001001ffbffc00000200020100210,
  0x10000080000000100080000c00000200000100200, 0x10000080000000100080000800000200000100200,
  0x100000800000001001ff83fc00000200020100200, 0x10000080000000100080038c00000200000100200,
  0x10000080000000100080030c00000200000100200, 0x10000080000000100080020c00000200000100200,
  0x100000800000001001ff8ffc00000200020100200, 0x100000000000001001ffbffc00000200020000010,
  0x1000008000000010009e038c00000200000100200, 0x10000080000000100080000000000200000100200,
  0x100000800000001001fffffc00000008020100210, 0x100000000000001001fffffc00000008020000010,
  0x100000800000001031fffffc00000008020100210, 0x100000800000001001fffffc00000200020100210,
  0x100000000000001001fffffc00000200020000010, 0x100000800000001031fffffc00000200020100210]

private def lookaheadSetsBlock3 : Array Nat := #[
  0x100000800000001031ff7ffc00008500060100210, 0x100000000000000000040000000,
  0x100000800000001001ff038c00000000060100200, 0x100000800000001001ffbffc00000000060100210,
  0x10000080000000100080000c00000000040100200, 0x10000080000000100080000800000000040100200,
  0x100000800000001001ff83fc00000000060100200, 0x10000080000000100080038c00000000040100200,
  0x10000080000000100080030c00000000040100200, 0x10000080000000100080020c00000000040100200,
  0x100000800000001001ff8ffc00000000060100200, 0x100000000000001001ffbffc00000000060000010,
  0x1000008000000010009e038c00000000040100200, 0x10000080000000100080000000000000040100200,
  0x100000800000001001fffffc00000000060100210, 0x100000000000001001fffffc00000000060000010,
  0x100000800000001031fffffc00000000060100210, 0x4000000010000000000000000000008004101100,
  0x100000800000000031fffffc00008500020100210, 0x60000000, 0x27ffff80600c00002800001170000004145a,
  0x100000800000001031ff7ffc00008500020100210, 0x100000000000000000000000000,
  0x100000800000001001ff038c00000000020100200, 0x100000800000001001ffbffc00000000020100210,
  0x10000080000000100080000c00000000000100200, 0x10000080000000100080000800000000000100200,
  0x100000800000001001ff83fc00000000020100200, 0x10000080000000100080038c00000000000100200,
  0x10000080000000100080030c00000000000100200, 0x10000080000000100080020c00000000000100200,
  0x100000800000001001ff8ffc00000000020100200, 0x100000000000001001ffbffc00000000020000010,
  0x1000008000000010009e038c00000000000100200, 0x10000080000000100080000000000000000100200,
  0x100000800000001001fffffc00000000020100210, 0x100000000000001001fffffc00000000020000010,
  0x100000800000001031fffffc00000000020100210, 0x7ffef80600c00000000001110000004045a,
  0x400007ffef80600c0000c000001110000404245a, 0x10000000000800000000000002000000,
  0x7ffef80600c00080000001150000204045a, 0x200010000000040028000004308008003900,
  0x20001000000004082800000c70800a003b00, 0x800000008000002000000,
  0x200010000000040028000004308008003b00, 0x200000000000040028000004308008003900,
  0x20001000000004002800000c708008003b00, 0x200010000000040828000004308008003b00,
  0x20001000000004002800000470800a003b00, 0x6000200010000000000828000000108006113900,
  0x6000200000000000000028000000100004003900, 0x80200010000000040028000004308008003b00,
  0x200010000000040028000004708008003b00, 0x200010000000040028000004208008003b00,
  0x10000000040000000004208008003b00, 0x6000200000000000000828000008500006003900,
  0x84000200000000000000028000000100004001800, 0x9000, 0x6000000010000000000000000000008004003000,
  0x40000000000000000001000, 0x200000000000000028000000100000000000,
  0x200000000000040020000004308008003900, 0x40000000004308008003900, 0x40028000004308008003900,
  0x6000000000000000000000000000000004003900, 0x6000200000000000000028000008500004003900,
  0x6000200000000000000828000000100004003900, 0x6000200000000000000028000000500006003900,
  0x84000200000000000000828000008500006001800, 0x4200008001900,
  0x6000000010000000000000000000008004000000, 0x200010000000040028000000300008003000,
  0x6080200000000000000028000000100004003900, 0x6000200000000000000028000000500004003900,
  0x6000200000000000000028000000100006003900, 0x200000000000000028000000300000000200,
  0x6000200000000000000028000000000004003900, 0x6000200000000000000020000000100004003900,
  0x6000000000000000000000000000100004003900, 0x6000000000000000000028000000100004003900,
  0x84000000000000000000000000000000004001800, 0x84000200000000000000028000008500004001800,
  0x84000200000000000000828000000100004001800, 0x84000200000000000000028000000500006001800,
  0x6000000000000000000000000000000004003800, 0x84080200000000000000028000000100004001800,
  0x84000200000000000000028000000500004001800, 0x10000000000000000000208068003100,
  0x84000000000000000000000000000100004001800, 0x84000200000000000000028000000000004001800,
  0x84000200000000000000020000000100004001800, 0x84000000000000000000028000000100004001800,
  0x1000200000000000000028000000300000001a00, 0x200000000000000028000000300000003200,
  0x200000000000000028000008700000000200, 0x4000000000000000100000000002,
  0x4000000000000000000000000000008064001100, 0x1000000000000000000000000000000000000800,
  0x10000000000800000000008002003100, 0x6000000000000000000000000000008004003800,
  0x6000000000000000000000000000400004003800, 0x10000000000000000000300000001000,
  0x200010000000000020000000300000001000, 0x10000000000028000000300000001000, 0x4000000000800,
  0x10000000000800000000000002003100, 0x800, 0x8000000000000340000000000000000000000000,
  0x84000000000000000000000000000000004001000, 0x40000000000000000001100, 0x40000000000000000001800,
  0x1000000000000000000000000000000000001800, 0x84000000000000000000000000000008004001800,
  0x300000000200, 0x200000000000000020000000300000000200, 0x28000000300000000200, 0x208004002000,
  0x208000003000, 0x4000000000000, 0x600000000000000000000000000002000900, 0x200000001100,
  0x8000000000000300000000000000000000000000, 0x8068000100,
  0x1000000000000000000800000000000000001800, 0x400000000000000000000000000000000800,
  0x54000000000000000000000000, 0x68000000000000000000000000]

private def lookaheadSetsBlock4 : Array Nat := #[
  0x40000000000000000000000000, 0x200000003100, 0x4008000000800, 0x800000000400002000000,
  0x4000000000000000000000000000000004008000, 0xb000, 0x200, 0x200008001000,
  0x4000000000000000000000000000000004010000, 0x1000200000000000000000000000000000000800,
  0x80000000, 0x8000]

/-- A lookahead set has bit `t` for each terminal `t` in it. -/
def lookaheadSets : Array (Array Nat) := #[
  lookaheadSetsBlock0, lookaheadSetsBlock1, lookaheadSetsBlock2, lookaheadSetsBlock3,
  lookaheadSetsBlock4]

end TypeScriptRepl.Grammar
