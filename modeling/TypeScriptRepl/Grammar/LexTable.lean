/-! Tables of the tokenizer: character classes, the deterministic automaton and its entry points. -/
namespace TypeScriptRepl.Grammar

/-- Classes of the ASCII characters, six bits each. -/
def asciiClasses : Nat :=
  0x8b6d74ceebb2baec6ebaebaec2fbaebaebaebabb6baecaeaa689e69628a48a28a28a28a28e28a28a28a289f85f7e07de75c6da6585d75965965965544d24503ce34c2ca2481c6142041041041041041041041041041102083081041041041040

/-- First character and class of each run of characters of one class, in increasing order. -/
def classRuns : List (Nat × Nat) := [
  (0x0, 0), (0x1, 1), (0x9, 2), (0xa, 3), (0xb, 2), (0xd, 4), (0xe, 1), (0x20, 2), (0x21, 5),
  (0x22, 6), (0x23, 7), (0x24, 8), (0x25, 9), (0x26, 10), (0x27, 11), (0x28, 12), (0x29, 13),
  (0x2a, 14), (0x2b, 15), (0x2c, 16), (0x2d, 17), (0x2e, 18), (0x2f, 19), (0x30, 20), (0x31, 21),
  (0x32, 22), (0x38, 23), (0x3a, 24), (0x3b, 25), (0x3c, 26), (0x3d, 27), (0x3e, 28), (0x3f, 29),
  (0x40, 30), (0x41, 31), (0x42, 32), (0x43, 31), (0x45, 33), (0x46, 31), (0x47, 34), (0x4f, 35),
  (0x50, 34), (0x58, 36), (0x59, 34), (0x5b, 37), (0x5c, 38), (0x5d, 39), (0x5e, 40), (0x5f, 41),
  (0x60, 42), (0x61, 43), (0x62, 44), (0x63, 43), (0x65, 45), (0x66, 43), (0x67, 46), (0x6e, 47),
  (0x6f, 48), (0x70, 46), (0x75, 49), (0x76, 46), (0x78, 50), (0x79, 46), (0x7b, 51), (0x7c, 52),
  (0x7d, 53), (0x7e, 54), (0x7f, 34), (0xa0, 2), (0xa1, 34), (0x1680, 2), (0x1681, 34), (0x2000, 2),
  (0x200c, 34), (0x2028, 55), (0x202a, 34), (0x202f, 2), (0x2030, 34), (0x205f, 2), (0x2061, 34),
  (0x3000, 2), (0x3001, 34), (0xfeff, 2), (0xff00, 34)]

private def charSetsBlock0 : Array Nat := #[
  0x8000000000001c, 0x20, 0x40, 0x80, 0x100, 0x200, 0x400, 0x800, 0x1000, 0x2000, 0x4000, 0x8000,
  0x10000, 0x20000, 0x40000, 0x80000, 0x100000, 0xe00000, 0x1000000, 0x2000000, 0x4000000,
  0x8000000, 0x10000000, 0x20000000, 0x40000000, 0x7fa1f80000000, 0x2000000000, 0x4000000000,
  0x8000000000, 0x10000000000, 0x40000000000, 0x8000000000000, 0x10000000000000, 0x20000000000000,
  0x40000000000000, 0x7fa1f80000100, 0x7fa1f80f00100, 0xf00000, 0x100100000000, 0x200200000000,
  0x1000800000000, 0x4001000000000, 0x20000000000, 0x800000000000, 0xf9ffffdf8fffee, 0x20000010,
  0x700000, 0x2000000000000, 0x4000000000000, 0xfffffffffffff6, 0x300000, 0x28000, 0x380380f00000,
  0x80000000000008, 0xffffffffffbffe, 0x7fffffffffffe6, 0xfffffffff7bffe, 0x21f80000100,
  0x7f80000000000, 0x21f80f00100, 0x7fffbffff7ffa2, 0x80000000000004, 0x18, 0xffffbfffffffa6,
  0xffffbffff7bfa6, 0xffffbfffffbfa6, 0x7fffbfffffffa6, 0x80000000000000, 0x7fffbffff7f7e2,
  0xffffbffffff7e6, 0xffffbffff7b7e6, 0xffffbfffffb7e6, 0x7fffbffffff7e6, 0x7fff9ffff7ffe2,
  0x80000000000014, 0x8, 0xffff9ffff7fff6, 0xffff3ffffffff6]

/-- Each set of characters that a transition tests, as a mask of character classes. -/
def charSets : Array (Array Nat) := #[
  charSetsBlock0]

private def lexRowsBlock0 : Array Nat := #[
  0x122311a2112110a0101f0f9e0f1d0e9c0e1b0d9a0d190c980c170b960b150a940a13099209110890080f078e070d068c060b058a0509048804070386030502840203018281010200,
  0x1,
  0x122311a2112110a0101f0f9e0f1d131c0e1b0d9a0d190c980c170b960b150a940a13099209111290080f078e070d068c060b058a0509048804070386030502840203018281010200,
  0x13960015, 0x63, 0x6c1c14a414020000, 0x1520131c0da50002, 0x15960052, 0x16961607004c, 0x64, 0x1a,
  0x1c, 0x1796170b0005, 0x19181896180c004f, 0xd, 0x5b981a16198e0050, 0x1b261a8f002f, 0x6b,
  0x1f2c1eab1e2a1da91d281ca709921c111b8f006e, 0x1f2c5cab1d2809a61b8f006e, 0x28, 0x1b,
  0x20161f950054, 0x211720960009, 0x22172196005b, 0x2318228f007d, 0x78, 0x131c0da50002, 0x2d,
  0x5c31253024af242e23ad0000, 0x2e, 0x2596004d, 0x69, 0x2621000c, 0x27a227212696004e, 0xe, 0x5e,
  0x29162890280b0051, 0x67b00000, 0x29960058, 0x14320003, 0x6c1c14a5006f, 0x6a, 0x3b, 0x2a160047,
  0x3d, 0x2a960053, 0x39, 0x61, 0x37, 0x2b130000, 0x62, 0x38, 0x2c0f0000, 0x622b1d281b26006e,
  0x1d281b26006e, 0x1f2c1eab1c26006e, 0x2cb30000, 0x2d2663b40000, 0x2daf0000, 0x2e350000,
  0x1c260000, 0x6e, 0x2e96004b, 0x55, 0x2f160056, 0x33, 0x5a, 0x30172f960049, 0x34, 0x3096005c,
  0x67, 0x23b60067, 0x5d2f0067, 0x61a068350000, 0x3c, 0x9d, 0x3e, 0x31160048, 0x9e, 0x318b28370000,
  0x28b80068, 0x3a, 0x59, 0x43, 0x42, 0x94, 0x93, 0x46, 0x1f2c1cab2cb3006e, 0x63ab2d26006e,
  0x1f2c1dab2daf006e, 0x1f2c1e2b2e35006e, 0x41, 0x57, 0x3f, 0x3216004a, 0x45, 0x44,
  0x3310318b28390000, 0x40, 0x33a232b50000, 0x68, 0x131c0da50067,
  0x122311a23a2139a0101f0f1d131c0e1b0d1939183897381637950a940a13099209113710080f368e070d360c358b058a0509048835070da4028402033482b4010200,
  0x15, 0x4c, 0x5, 0x180c004f, 0x198e0050, 0x2890280b0051, 0x54, 0x21170009, 0x5b, 0x7d, 0xc,
  0x27a2004e,
  0x122311a2112110a0101f0f9e0f1d131c0e1b0d190c980c170b960b150a940a13099209111290080f3c0e070d3b8c060b058a05090488040703860da43b0402030182ba810000,
  0x6c1c14a40000, 0x1896180c004f, 0x1a16198e0050,
  0x12233d2110a0101f0f1d131c0e1b0d1939183795099209113710080f368e070d360c358b058a0509048835070da43b0402033482bc810000,
  0x4e, 0x27212696004e,
  0x122311a241a139a0101f411e0f1d131c0e1b0d195b185a9740965a150a940a13099209113710400f368e070d360c3f8b058a050904883f073e860da43b0402030182be010200,
  0x52, 0x4207004c, 0x428b0005]

private def lexRowsBlock1 : Array Nat := #[
  0x1b26002f, 0x20960009, 0x4d, 0x27a244a1004e, 0x47, 0x53, 0x4b, 0x45170049, 0x5c, 0x48, 0x4a,
  0x11a23a2110a0101f0f1d131c0e1b0d193918389737950a94099209114790470f468e070d460c358b0509048835070da43b040203c5810000,
  0x4f, 0x50, 0x1b261a8f0000, 0x2890280b0000,
  0x122311a23a2139a0101f0f1d131c0e1b0d1948983897381637950a940a13099209113710080f368e070d360c358b058a0509048835070da43b0402033482c8010000,
  0x228f007d,
  0x11a249a139a0131c0e1b0d1937950a94099209114790470f468e070d460c358b050904880da43b040203c9010000,
  0x27a20000,
  0x11a24d2139a04cbb101f411e0f1d131c0e1b4c185a974b965a150a940a1337104b0f368e070d360c3f8b058a05093f073e860dba0182ca810000,
  0x11a24d2139a0101f411e0f1d131c0e1b4c185a974b965a150a940a1337104b0f368e070d360c3f8b058a05093f073e860da40182ca810000,
  0x2f, 0x20960000, 0x4418228f0000, 0x4cbb131c0dbc006d, 0x44a1004e,
  0x101f6b9c61180a1347905e8e4f0c4e85ce010000, 0x101f61180a1347905e8e4f0c4e85ce010000, 0x15200000,
  0x19180000, 0x95, 0x6b9c52100203d1bf513e50bd0000, 0x50c00065, 0x5210513e50bd0065,
  0x47900203d1810000, 0x5310528b50c10065, 0x5f0b52c20065, 0x50c453430065,
  0x6b9c55900488d53f54be54450000, 0x54460066, 0x559054be54450066, 0x47900488d5010000,
  0x5690560b54470066, 0x5f8b56480066, 0x544456c90066, 0x599c591b4790d8cc584b57ca0000,
  0x599c591b57cd006c, 0x599c591b4790d8cc584b57ca006c, 0x4790d8810000, 0x579d609c594e0000,
  0x57b20000, 0x201643150054, 0x43972196005b, 0x4418228f007d, 0x2b930000, 0x63350000, 0x9a60000,
  0x23af0067, 0xda25db50000,
  0x122311a23da139a0101f0f9e0f1d131c0e1b0d190c980c170b960b150a940a13099209111290080f3c0e070d3b8c060b058a05090488040703860da43b0402030182de010000,
  0x5b980000, 0x50905f0b52c10065, 0x54105f8b56470066, 0x890d8810000, 0x59320000, 0x4f930000,
  0x32b50000, 0x1b260000, 0x14a262b50000, 0x23b50000, 0x2d260000, 0x23a264350000, 0x5db50000,
  0x62b50000, 0x33b50000, 0xdb50000, 0x14b50000, 0x64350000, 0x64a06cb50000, 0x69350000,
  0x65206d350000, 0x65b50000, 0x67206b350000, 0x66350000, 0x66b50000, 0x5c350000,
  0x5c3169b024af242e23ad0000, 0x68b00000, 0x6a350000, 0x6ab50000]

/-- One row per automaton state: accepted terminal plus one (8 bits), state at the end of the text
plus one (8), then 16-bit transitions in order of preference: character set counted from 1 (7),
target (8), and whether the character is skipped (1). -/
def lexRows : Array (Array Nat) := #[
  lexRowsBlock0, lexRowsBlock1]

/-- Each lexical mode: where the automaton starts, and a mask of the context-dependent tokens that
may come next. -/
def lexModes : Array (Nat × Nat) := #[
  (0, 959), (104, 8), (117, 28), (121, 8), (188, 29), (188, 28), (124, 28), (124, 29), (117, 29),
  (104, 9), (139, 8), (144, 8), (146, 8), (148, 28), (148, 29), (139, 9), (144, 9), (117, 8),
  (144, 265), (104, 265), (155, 42), (155, 8), (155, 10), (160, 40), (167, 40), (174, 72), (192, 8)]

end TypeScriptRepl.Grammar
