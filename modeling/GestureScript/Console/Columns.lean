import GestureScript.Text.Blank
import GestureScript.Text.Category
import GestureScript.Text.Runs

/-!
# Columns

How many columns a text takes in a console. Marks and controls take none, East
Asian characters and emoji take two, and other characters take one. Some signs
are narrow until a selector behind them makes emoji of them, and a joiner draws
two emoji in one place.
-/

set_option autoImplicit false

namespace GestureScript.Console

open Text

/-- Runs of characters, each with the letter of its width (none, narrow or wide) and
its first character in hexadecimal. -/
def widthTable : List String :=
  ["z0 n20 z7f na0 z300 n370 z483 n48a z591 n5be z5bf n5c0 z5c1 n5c3 z5c4 n5c6 z5c7 n5c8 z610",
   "n61b z61c n61d z64b n660 z670 n671 z6d6 n6dd z6df n6e5 z6e7 n6e9 z6ea n6ee z711 n712 z730",
   "n74b z7a6 n7b1 z7eb n7f4 z7fd n7fe z816 n81a z81b n824 z825 n828 z829 n82e z859 n85c z897",
   "n8a0 z8ca n8e2 z8e3 n904 z93a n93d z93e n950 z951 n958 z962 n964 z981 n984 z9bc n9bd z9be",
   "n9c5 z9c7 n9c9 z9cb n9ce z9d7 n9d8 z9e2 n9e4 z9fe n9ff za01 na04 za3c na3d za3e na43 za47",
   "na49 za4b na4e za51 na52 za70 na72 za75 na76 za81 na84 zabc nabd zabe nac6 zac7 naca zacb",
   "nace zae2 nae4 zafa nb00 zb01 nb04 zb3c nb3d zb3e nb45 zb47 nb49 zb4b nb4e zb55 nb58 zb62",
   "nb64 zb82 nb83 zbbe nbc3 zbc6 nbc9 zbca nbce zbd7 nbd8 zc00 nc05 zc3c nc3d zc3e nc45 zc46",
   "nc49 zc4a nc4e zc55 nc57 zc62 nc64 zc81 nc84 zcbc ncbd zcbe ncc5 zcc6 ncc9 zcca ncce zcd5",
   "ncd7 zce2 nce4 zcf3 ncf4 zd00 nd04 zd3b nd3d zd3e nd45 zd46 nd49 zd4a nd4e zd57 nd58 zd62",
   "nd64 zd81 nd84 zdca ndcb zdcf ndd5 zdd6 ndd7 zdd8 nde0 zdf2 ndf4 ze31 ne32 ze34 ne3b ze47",
   "ne4f zeb1 neb2 zeb4 nebd zec8 necf zf18 nf1a zf35 nf36 zf37 nf38 zf39 nf3a zf3e nf40 zf71",
   "nf85 zf86 nf88 zf8d nf98 zf99 nfbd zfc6 nfc7 z102b n103f z1056 n105a z105e n1061 z1062 n1065",
   "z1067 n106e z1071 n1075 z1082 n108e z108f n1090 z109a n109e w1100 z1160 n1200 z135d n1360",
   "z1712 n1716 z1732 n1735 z1752 n1754 z1772 n1774 z17b4 n17d4 z17dd n17de z180b n1810 z1885",
   "n1887 z18a9 n18aa z1920 n192c z1930 n193c z1a17 n1a1c z1a55 n1a5f z1a60 n1a7d z1a7f n1a80",
   "z1ab0 n1ade z1ae0 n1aec z1b00 n1b05 z1b34 n1b45 z1b6b n1b74 z1b80 n1b83 z1ba1 n1bae z1be6",
   "n1bf4 z1c24 n1c38 z1cd0 n1cd3 z1cd4 n1ce9 z1ced n1cee z1cf4 n1cf5 z1cf7 n1cfa z1dc0 n1e00",
   "z200b n2010 z2028 n202f z2060 n2070 z20d0 n20f1 w231a n231c w2329 n232b w23e9 n23ed w23f0",
   "n23f1 w23f3 n23f4 w25fd n25ff w2614 n2616 w2630 n2638 w2648 n2654 w267f n2680 w268a n2690",
   "w2693 n2694 w26a1 n26a2 w26aa n26ac w26bd n26bf w26c4 n26c6 w26ce n26cf w26d4 n26d5 w26ea",
   "n26eb w26f2 n26f4 w26f5 n26f6 w26fa n26fb w26fd n26fe w2705 n2706 w270a n270c w2728 n2729",
   "w274c n274d w274e n274f w2753 n2756 w2757 n2758 w2795 n2798 w27b0 n27b1 w27bf n27c0 w2b1b",
   "n2b1d w2b50 n2b51 w2b55 n2b56 z2cef n2cf2 z2d7f n2d80 z2de0 n2e00 w2e80 n2e9a w2e9b n2ef4",
   "w2f00 n2fd6 w2ff0 z302a w3030 n303f w3041 n3097 z3099 w309b n3100 w3105 n3130 w3131 z3164",
   "w3165 n318f w3190 n31e6 w31ef n321f w3220 n3248 w3250 na48d wa490 na4c7 za66f na673 za674",
   "na67e za69e na6a0 za6f0 na6f2 za802 na803 za806 na807 za80b na80c za823 na828 za82c na82d",
   "za880 na882 za8b4 na8c6 za8e0 na8f2 za8ff na900 za926 na92e za947 na954 wa960 na97d za980",
   "na984 za9b3 na9c1 za9e5 na9e6 zaa29 naa37 zaa43 naa44 zaa4c naa4e zaa7b naa7e zaab0 naab1",
   "zaab2 naab5 zaab7 naab9 zaabe naac0 zaac1 naac2 zaaeb naaf0 zaaf5 naaf7 zabe3 nabeb zabec",
   "nabee wac00 nd7a4 zd7b0 ne000 wf900 nfb00 zfb1e nfb1f zfe00 wfe10 nfe1a zfe20 wfe30 nfe53",
   "wfe54 nfe67 wfe68 nfe6c zfeff nff00 wff01 nff61 zffa0 nffa1 wffe0 nffe7 zfff0 nfffc z101fd",
   "n101fe z102e0 n102e1 z10376 n1037b z10a01 n10a04 z10a05 n10a07 z10a0c n10a10 z10a38 n10a3b",
   "z10a3f n10a40 z10ae5 n10ae7 z10d24 n10d28 z10d69 n10d6e z10eab n10ead z10efa n10f00 z10f46",
   "n10f51 z10f82 n10f86 z11000 n11003 z11038 n11047 z11070 n11071 z11073 n11075 z1107f n11083",
   "z110b0 n110bb z110c2 n110c3 z11100 n11103 z11127 n11135 z11145 n11147 z11173 n11174 z11180",
   "n11183 z111b3 n111c1 z111c9 n111cd z111ce n111d0 z1122c n11238 z1123e n1123f z11241 n11242",
   "z112df n112eb z11300 n11304 z1133b n1133d z1133e n11345 z11347 n11349 z1134b n1134e z11357",
   "n11358 z11362 n11364 z11366 n1136d z11370 n11375 z113b8 n113c1 z113c2 n113c3 z113c5 n113c6",
   "z113c7 n113cb z113cc n113d1 z113d2 n113d3 z113e1 n113e3 z11435 n11447 z1145e n1145f z114b0",
   "n114c4 z115af n115b6 z115b8 n115c1 z115dc n115de z11630 n11641 z116ab n116b8 z1171d n1172c",
   "z1182c n1183b z11930 n11936 z11937 n11939 z1193b n1193f z11940 n11941 z11942 n11944 z119d1",
   "n119d8 z119da n119e1 z119e4 n119e5 z11a01 n11a0b z11a33 n11a3a z11a3b n11a3f z11a47 n11a48",
   "z11a51 n11a5c z11a8a n11a9a z11b60 n11b68 z11c2f n11c37 z11c38 n11c40 z11c92 n11ca8 z11ca9",
   "n11cb7 z11d31 n11d37 z11d3a n11d3b z11d3c n11d3e z11d3f n11d46 z11d47 n11d48 z11d8a n11d8f",
   "z11d90 n11d92 z11d93 n11d98 z11ef3 n11ef7 z11f00 n11f02 z11f03 n11f04 z11f34 n11f3b z11f3e",
   "n11f43 z11f5a n11f5b z13430 n13441 z13447 n13456 z1611e n16130 z16af0 n16af5 z16b30 n16b37",
   "z16f4f n16f50 z16f51 n16f88 z16f8f n16f93 w16fe0 z16fe4 n16fe5 z16ff0 w16ff2 n16ff7 w17000",
   "n18cd6 w18cff n18d1f w18d80 n18df3 w1aff0 n1aff4 w1aff5 n1affc w1affd n1afff w1b000 n1b123",
   "w1b132 n1b133 w1b150 n1b153 w1b155 n1b156 w1b164 n1b168 w1b170 n1b2fc z1bc9d n1bc9f z1bca0",
   "n1bca4 z1cf00 n1cf2e z1cf30 n1cf47 z1d165 n1d16a z1d16d n1d183 z1d185 n1d18c z1d1aa n1d1ae",
   "z1d242 n1d245 w1d300 n1d357 w1d360 n1d377 z1da00 n1da37 z1da3b n1da6d z1da75 n1da76 z1da84",
   "n1da85 z1da9b n1daa0 z1daa1 n1dab0 z1e000 n1e007 z1e008 n1e019 z1e01b n1e022 z1e023 n1e025",
   "z1e026 n1e02b z1e08f n1e090 z1e130 n1e137 z1e2ae n1e2af z1e2ec n1e2f0 z1e4ec n1e4f0 z1e5ee",
   "n1e5f0 z1e6e3 n1e6e4 z1e6e6 n1e6e7 z1e6ee n1e6f0 z1e6f5 n1e6f6 z1e8d0 n1e8d7 z1e944 n1e94b",
   "w1f004 n1f005 w1f0cf n1f0d0 w1f18e n1f18f w1f191 n1f19b w1f200 n1f203 w1f210 n1f23c w1f240",
   "n1f249 w1f250 n1f252 w1f260 n1f266 w1f300 n1f321 w1f32d n1f336 w1f337 n1f37d w1f37e n1f394",
   "w1f3a0 n1f3cb w1f3cf n1f3d4 w1f3e0 n1f3f1 w1f3f4 n1f3f5 w1f3f8 z1f3fb w1f400 n1f43f w1f440",
   "n1f441 w1f442 n1f4fd w1f4ff n1f53e w1f54b n1f54f w1f550 n1f568 w1f57a n1f57b w1f595 n1f597",
   "w1f5a4 n1f5a5 w1f5fb n1f650 w1f680 n1f6c6 w1f6cc n1f6cd w1f6d0 n1f6d3 w1f6d5 n1f6d9 w1f6dc",
   "n1f6e0 w1f6eb n1f6ed w1f6f4 n1f6fd w1f7e0 n1f7ec w1f7f0 n1f7f1 w1f90c n1f93b w1f93c n1f946",
   "w1f947 n1fa00 w1fa70 n1fa7d w1fa80 n1fa8b w1fa8e n1fac7 w1fac8 n1fac9 w1facd n1fadd w1fadf",
   "n1faeb w1faef n1faf9 w20000 n2fffe w30000 n3fffe ze0000 ne1000"]

def widthOfLetter : Char → Nat
  | 'z' => 0
  | 'w' => 2
  | _ => 1

def readWidth : List Char → Nat × Nat
  | [] => (0, 1)
  | letter :: start => (Category.readHex start, widthOfLetter letter)

def widthRuns : Runs Nat :=
  ((widthTable.flatMap fun line => words line.toList).map readWidth).toArray

/-- The columns of a character by itself. -/
def width (c : Char) : Nat :=
  if isAscii c then if 0x20 ≤ c.toNat && c.toNat < 0x7f then 1 else 0
  else (widthRuns.find? c.toNat).getD 1

/-- Signs that the emoji selector makes wide. -/
def narrowSigns : List (Nat × Nat) :=
  [(0x23, 0x23), (0x2a, 0x2a), (0x30, 0x39), (0xa9, 0xa9), (0xae, 0xae), (0x203c, 0x203c),
   (0x2049, 0x2049), (0x2122, 0x2122), (0x2139, 0x2139), (0x2194, 0x2199), (0x21a9, 0x21aa),
   (0x2328, 0x2328), (0x23cf, 0x23cf), (0x23ed, 0x23ef), (0x23f1, 0x23f2), (0x23f8, 0x23fa),
   (0x24c2, 0x24c2), (0x25aa, 0x25ab), (0x25b6, 0x25b6), (0x25c0, 0x25c0), (0x25fb, 0x25fc),
   (0x2600, 0x2604), (0x260e, 0x260e), (0x2611, 0x2611), (0x2618, 0x2618), (0x261d, 0x261d),
   (0x2620, 0x2620), (0x2622, 0x2623), (0x2626, 0x2626), (0x262a, 0x262a), (0x262e, 0x262f),
   (0x2638, 0x263a), (0x2640, 0x2640), (0x2642, 0x2642), (0x265f, 0x2660), (0x2663, 0x2663),
   (0x2665, 0x2666), (0x2668, 0x2668), (0x267b, 0x267b), (0x267e, 0x267e), (0x2692, 0x2692),
   (0x2694, 0x2697), (0x2699, 0x2699), (0x269b, 0x269c), (0x26a0, 0x26a0), (0x26a7, 0x26a7),
   (0x26b0, 0x26b1), (0x26c8, 0x26c8), (0x26cf, 0x26cf), (0x26d1, 0x26d1), (0x26d3, 0x26d3),
   (0x26e9, 0x26e9), (0x26f0, 0x26f1), (0x26f4, 0x26f4), (0x26f7, 0x26f9), (0x2702, 0x2702),
   (0x2708, 0x2709), (0x270c, 0x270d), (0x270f, 0x270f), (0x2712, 0x2712), (0x2714, 0x2714),
   (0x2716, 0x2716), (0x271d, 0x271d), (0x2721, 0x2721), (0x2733, 0x2734), (0x2744, 0x2744),
   (0x2747, 0x2747), (0x2763, 0x2764), (0x27a1, 0x27a1), (0x2934, 0x2935), (0x2b05, 0x2b07),
   (0x1f170, 0x1f171), (0x1f17e, 0x1f17f), (0x1f321, 0x1f321), (0x1f324, 0x1f32c),
   (0x1f336, 0x1f336), (0x1f37d, 0x1f37d), (0x1f396, 0x1f397), (0x1f399, 0x1f39b),
   (0x1f39e, 0x1f39f), (0x1f3cb, 0x1f3ce), (0x1f3d4, 0x1f3df), (0x1f3f3, 0x1f3f3),
   (0x1f3f5, 0x1f3f5), (0x1f3f7, 0x1f3f7), (0x1f43f, 0x1f43f), (0x1f441, 0x1f441),
   (0x1f4fd, 0x1f4fd), (0x1f549, 0x1f54a), (0x1f56f, 0x1f570), (0x1f573, 0x1f579),
   (0x1f587, 0x1f587), (0x1f58a, 0x1f58d), (0x1f590, 0x1f590), (0x1f5a5, 0x1f5a5),
   (0x1f5a8, 0x1f5a8), (0x1f5b1, 0x1f5b2), (0x1f5bc, 0x1f5bc), (0x1f5c2, 0x1f5c4),
   (0x1f5d1, 0x1f5d3), (0x1f5dc, 0x1f5de), (0x1f5e1, 0x1f5e1), (0x1f5e3, 0x1f5e3),
   (0x1f5e8, 0x1f5e8), (0x1f5ef, 0x1f5ef), (0x1f5f3, 0x1f5f3), (0x1f5fa, 0x1f5fa),
   (0x1f6cb, 0x1f6cb), (0x1f6cd, 0x1f6cf), (0x1f6e0, 0x1f6e5), (0x1f6e9, 0x1f6e9),
   (0x1f6f0, 0x1f6f0), (0x1f6f3, 0x1f6f3)]

def isNarrowSign (c : Char) : Bool :=
  narrowSigns.any fun r => r.1 ≤ c.toNat && c.toNat ≤ r.2

def joiner : Char := Char.ofNat 0x200d

def emojiSelector : Char := Char.ofNat 0xfe0f

/-- The columns of a text. The sign that a selector may widen is the last one that
takes columns; it may be widened once. -/
def columnsAfter (sign : Option Char) : List Char → Nat
  | [] => 0
  | c :: cs =>
    if c = joiner then
      match cs with
      | [] => 0
      | _ :: cs => columnsAfter sign cs
    else if c = emojiSelector then
      (if sign.any isNarrowSign then 1 else 0) + columnsAfter none cs
    else width c + columnsAfter (if width c = 0 then sign else some c) cs

def columns (cs : List Char) : Nat := columnsAfter none cs

@[simp] theorem columns_nil : columns [] = 0 := rfl

end GestureScript.Console
