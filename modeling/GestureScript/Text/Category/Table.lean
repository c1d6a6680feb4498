/-!
# The table of character categories

Each word is the letter of a category and the first character, in hexadecimal, of a
run of characters that belong to it. A run ends where the next one starts.
-/

set_option autoImplicit false

namespace GestureScript.Text.Category

def table : List String :=
  ["h0 v21 d30 v3a l41 v5b k5e c5f k60 l61 v7b h7f va1 ka8 va9 oaa vab fad vae kaf vb0 ub2 kb4",
   "lb5 vb6 kb8 ub9 oba vbb ubc vbf lc0 vd7 ld8 vf7 lf8 o1bb l1bc o1c0 l1c4 o294 l295 m2b0 k2c2",
   "m2c6 k2d2 m2e0 k2e5 m2ec k2ed m2ee k2ef n300 l370 m374 k375 l376 h378 m37a l37b v37e l37f",
   "h380 k384 l386 v387 l388 h38b l38c h38d l38e h3a2 l3a3 v3f6 l3f7 v482 n483 e488 l48a h530",
   "l531 h557 m559 v55a l560 v589 h58b v58d h590 n591 v5be n5bf v5c0 n5c1 v5c3 n5c4 v5c6 n5c7",
   "h5c8 o5d0 h5eb o5ef v5f3 h5f5 f600 v606 n610 v61b f61c h61d v61e o620 m640 o641 n64b d660",
   "v66a o66e n670 o671 v6d4 o6d5 n6d6 f6dd v6de n6df m6e5 n6e7 v6e9 n6ea o6ee d6f0 o6fa v6fd",
   "o6ff v700 h70e f70f o710 n711 o712 n730 h74b o74d n7a6 o7b1 h7b2 d7c0 o7ca n7eb m7f4 v7f6",
   "m7fa h7fb n7fd v7fe o800 n816 m81a n81b m824 n825 m828 n829 h82e v830 h83f o840 n859 h85c",
   "v85e h85f o860 h86b o8a0 h8b5 o8b6 h8c8 n8d3 f8e2 n8e3 s903 o904 n93a s93b n93c o93d s93e",
   "n941 s949 n94d s94e o950 n951 o958 n962 v964 d966 v970 m971 o972 n981 s982 h984 o985 h98d",
   "o98f h991 o993 h9a9 o9aa h9b1 o9b2 h9b3 o9b6 h9ba n9bc o9bd s9be n9c1 h9c5 s9c7 h9c9 s9cb",
   "n9cd o9ce h9cf s9d7 h9d8 o9dc h9de o9df n9e2 h9e4 d9e6 o9f0 v9f2 u9f4 v9fa o9fc v9fd n9fe",
   "h9ff na01 sa03 ha04 oa05 ha0b oa0f ha11 oa13 ha29 oa2a ha31 oa32 ha34 oa35 ha37 oa38 ha3a",
   "na3c ha3d sa3e na41 ha43 na47 ha49 na4b ha4e na51 ha52 oa59 ha5d oa5e ha5f da66 na70 oa72",
   "na75 va76 ha77 na81 sa83 ha84 oa85 ha8e oa8f ha92 oa93 haa9 oaaa hab1 oab2 hab4 oab5 haba",
   "nabc oabd sabe nac1 hac6 nac7 sac9 haca sacb nacd hace oad0 had1 oae0 nae2 hae4 dae6 vaf0",
   "haf2 oaf9 nafa hb00 nb01 sb02 hb04 ob05 hb0d ob0f hb11 ob13 hb29 ob2a hb31 ob32 hb34 ob35",
   "hb3a nb3c ob3d sb3e nb3f sb40 nb41 hb45 sb47 hb49 sb4b nb4d hb4e nb55 sb57 hb58 ob5c hb5e",
   "ob5f nb62 hb64 db66 vb70 ob71 ub72 hb78 nb82 ob83 hb84 ob85 hb8b ob8e hb91 ob92 hb96 ob99",
   "hb9b ob9c hb9d ob9e hba0 oba3 hba5 oba8 hbab obae hbba sbbe nbc0 sbc1 hbc3 sbc6 hbc9 sbca",
   "nbcd hbce obd0 hbd1 sbd7 hbd8 dbe6 ubf0 vbf3 hbfb nc00 sc01 nc04 oc05 hc0d oc0e hc11 oc12",
   "hc29 oc2a hc3a oc3d nc3e sc41 hc45 nc46 hc49 nc4a hc4e nc55 hc57 oc58 hc5b oc60 nc62 hc64",
   "dc66 hc70 vc77 uc78 vc7f oc80 nc81 sc82 vc84 oc85 hc8d oc8e hc91 oc92 hca9 ocaa hcb4 ocb5",
   "hcba ncbc ocbd scbe ncbf scc0 hcc5 ncc6 scc7 hcc9 scca nccc hcce scd5 hcd7 ocde hcdf oce0",
   "nce2 hce4 dce6 hcf0 ocf1 hcf3 nd00 sd02 od04 hd0d od0e hd11 od12 nd3b od3d sd3e nd41 hd45",
   "sd46 hd49 sd4a nd4d od4e vd4f hd50 od54 sd57 ud58 od5f nd62 hd64 dd66 ud70 vd79 od7a hd80",
   "nd81 sd82 hd84 od85 hd97 od9a hdb2 odb3 hdbc odbd hdbe odc0 hdc7 ndca hdcb sdcf ndd2 hdd5",
   "ndd6 hdd7 sdd8 hde0 dde6 hdf0 sdf2 vdf4 hdf5 oe01 ne31 oe32 ne34 he3b ve3f oe40 me46 ne47",
   "ve4f de50 ve5a he5c oe81 he83 oe84 he85 oe86 he8b oe8c hea4 oea5 hea6 oea7 neb1 oeb2 neb4",
   "oebd hebe oec0 hec5 mec6 hec7 nec8 hece ded0 heda oedc hee0 of00 vf01 nf18 vf1a df20 uf2a",
   "vf34 nf35 vf36 nf37 vf38 nf39 vf3a sf3e of40 hf48 of49 hf6d nf71 sf7f nf80 vf85 nf86 of88",
   "nf8d hf98 nf99 hfbd vfbe nfc6 vfc7 hfcd vfce hfdb o1000 s102b n102d s1031 n1032 s1038 n1039",
   "s103b n103d o103f d1040 v104a o1050 s1056 n1058 o105a n105e o1061 s1062 o1065 s1067 o106e",
   "n1071 o1075 n1082 s1083 n1085 s1087 n108d o108e s108f d1090 s109a n109d v109e l10a0 h10c6",
   "l10c7 h10c8 l10cd h10ce l10d0 v10fb m10fc l10fd o1100 h1249 o124a h124e o1250 h1257 o1258",
   "h1259 o125a h125e o1260 h1289 o128a h128e o1290 h12b1 o12b2 h12b6 o12b8 h12bf o12c0 h12c1",
   "o12c2 h12c6 o12c8 h12d7 o12d8 h1311 o1312 h1316 o1318 h135b n135d v1360 u1369 h137d o1380",
   "v1390 h139a l13a0 h13f6 l13f8 h13fe v1400 o1401 v166d o166f h1680 o1681 v169b h169d o16a0",
   "v16eb r16ee o16f1 h16f9 o1700 h170d o170e n1712 h1715 o1720 n1732 v1735 h1737 o1740 n1752",
   "h1754 o1760 h176d o176e h1771 n1772 h1774 o1780 n17b4 s17b6 n17b7 s17be n17c6 s17c7 n17c9",
   "v17d4 m17d7 v17d8 o17dc n17dd h17de d17e0 h17ea u17f0 h17fa v1800 n180b f180e h180f d1810",
   "h181a o1820 m1843 o1844 h1879 o1880 n1885 o1887 n18a9 o18aa h18ab o18b0 h18f6 o1900 h191f",
   "n1920 s1923 n1927 s1929 h192c s1930 n1932 s1933 n1939 h193c v1940 h1941 v1944 d1946 o1950",
   "h196e o1970 h1975 o1980 h19ac o19b0 h19ca d19d0 u19da h19db v19de o1a00 n1a17 s1a19 n1a1b",
   "h1a1c v1a1e o1a20 s1a55 n1a56 s1a57 n1a58 h1a5f n1a60 s1a61 n1a62 s1a63 n1a65 s1a6d n1a73",
   "h1a7d n1a7f d1a80 h1a8a d1a90 h1a9a v1aa0 m1aa7 v1aa8 h1aae n1ab0 e1abe n1abf h1ac1 n1b00",
   "s1b04 o1b05 n1b34 s1b35 n1b36 s1b3b n1b3c s1b3d n1b42 s1b43 o1b45 h1b4c d1b50 v1b5a n1b6b",
   "v1b74 h1b7d n1b80 s1b82 o1b83 s1ba1 n1ba2 s1ba6 n1ba8 s1baa n1bab o1bae d1bb0 o1bba n1be6",
   "s1be7 n1be8 s1bea n1bed s1bee n1bef s1bf2 h1bf4 v1bfc o1c00 s1c24 n1c2c s1c34 n1c36 h1c38",
   "v1c3b d1c40 h1c4a o1c4d d1c50 o1c5a m1c78 v1c7e l1c80 h1c89 l1c90 h1cbb l1cbd v1cc0 h1cc8",
   "n1cd0 v1cd3 n1cd4 s1ce1 n1ce2 o1ce9 n1ced o1cee n1cf4 o1cf5 s1cf7 n1cf8 o1cfa h1cfb l1d00",
   "m1d2c l1d6b m1d78 l1d79 m1d9b n1dc0 h1dfa n1dfb l1e00 h1f16 l1f18 h1f1e l1f20 h1f46 l1f48",
   "h1f4e l1f50 h1f58 l1f59 h1f5a l1f5b h1f5c l1f5d h1f5e l1f5f h1f7e l1f80 h1fb5 l1fb6 k1fbd",
   "l1fbe k1fbf l1fc2 h1fc5 l1fc6 k1fcd l1fd0 h1fd4 l1fd6 h1fdc k1fdd l1fe0 k1fed h1ff0 l1ff2",
   "h1ff5 l1ff6 k1ffd h1fff f200b v2010 h2028 f202a h202f v2030 c203f v2041 c2054 v2055 h205f",
   "f2060 h2065 f2066 u2070 m2071 h2072 u2074 v207a m207f u2080 v208a h208f m2090 h209d v20a0",
   "h20c0 n20d0 e20dd n20e1 e20e2 n20e5 h20f1 v2100 l2102 v2103 l2107 v2108 l210a v2114 l2115",
   "v2116 l2119 v211e l2124 v2125 l2126 v2127 l2128 v2129 l212a v212e l212f o2135 l2139 v213a",
   "l213c v2140 l2145 v214a l214e v214f u2150 r2160 l2183 r2185 u2189 v218a h218c v2190 h2427",
   "v2440 h244b u2460 v249c u24ea v2500 u2776 v2794 h2b74 v2b76 h2b96 v2b97 l2c00 h2c2f l2c30",
   "h2c5f l2c60 m2c7c l2c7e v2ce5 l2ceb n2cef l2cf2 h2cf4 v2cf9 u2cfd v2cfe l2d00 h2d26 l2d27",
   "h2d28 l2d2d h2d2e o2d30 h2d68 m2d6f v2d70 h2d71 n2d7f o2d80 h2d97 o2da0 h2da7 o2da8 h2daf",
   "o2db0 h2db7 o2db8 h2dbf o2dc0 h2dc7 o2dc8 h2dcf o2dd0 h2dd7 o2dd8 h2ddf n2de0 v2e00 m2e2f",
   "v2e30 h2e53 v2e80 h2e9a v2e9b h2ef4 v2f00 h2fd6 v2ff0 h2ffc v3001 m3005 o3006 r3007 v3008",
   "r3021 n302a s302e v3030 m3031 v3036 r3038 m303b o303c v303d h3040 o3041 h3097 n3099 k309b",
   "m309d o309f v30a0 o30a1 v30fb m30fc o30ff h3100 o3105 h3130 o3131 h318f v3190 u3192 v3196",
   "o31a0 v31c0 h31e4 o31f0 v3200 h321f u3220 v322a u3248 v3250 u3251 v3260 u3280 v328a u32b1",
   "v32c0 o3400 v4dc0 o4e00 h9ffd oa000 ma015 oa016 ha48d va490 ha4c7 oa4d0 ma4f8 va4fe oa500",
   "ma60c va60d oa610 da620 oa62a ha62c la640 oa66e na66f ea670 va673 na674 va67e ma67f la680",
   "ma69c na69e oa6a0 ra6e6 na6f0 va6f2 ha6f8 ka700 ma717 ka720 la722 ma770 la771 ma788 ka789",
   "la78b oa78f la790 ha7c0 la7c2 ha7cb la7f5 oa7f7 ma7f8 la7fa oa7fb na802 oa803 na806 oa807",
   "na80b oa80c sa823 na825 sa827 va828 na82c ha82d ua830 va836 ha83a oa840 va874 ha878 sa880",
   "oa882 sa8b4 na8c4 ha8c6 va8ce da8d0 ha8da na8e0 oa8f2 va8f8 oa8fb va8fc oa8fd na8ff da900",
   "oa90a na926 va92e oa930 na947 sa952 ha954 va95f oa960 ha97d na980 sa983 oa984 na9b3 sa9b4",
   "na9b6 sa9ba na9bc sa9be va9c1 ha9ce ma9cf da9d0 ha9da va9de oa9e0 na9e5 ma9e6 oa9e7 da9f0",
   "oa9fa ha9ff oaa00 naa29 saa2f naa31 saa33 naa35 haa37 oaa40 naa43 oaa44 naa4c saa4d haa4e",
   "daa50 haa5a vaa5c oaa60 maa70 oaa71 vaa77 oaa7a saa7b naa7c saa7d oaa7e naab0 oaab1 naab2",
   "oaab5 naab7 oaab9 naabe oaac0 naac1 oaac2 haac3 oaadb maadd vaade oaae0 saaeb naaec saaee",
   "vaaf0 oaaf2 maaf3 saaf5 naaf6 haaf7 oab01 hab07 oab09 hab0f oab11 hab17 oab20 hab27 oab28",
   "hab2f lab30 kab5b mab5c lab60 mab69 kab6a hab6c lab70 oabc0 sabe3 nabe5 sabe6 nabe8 sabe9",
   "vabeb sabec nabed habee dabf0 habfa oac00 hd7a4 od7b0 hd7c7 od7cb hd7fc of900 hfa6e ofa70",
   "hfada lfb00 hfb07 lfb13 hfb18 ofb1d nfb1e ofb1f vfb29 ofb2a hfb37 ofb38 hfb3d ofb3e hfb3f",
   "ofb40 hfb42 ofb43 hfb45 ofb46 kfbb2 hfbc2 ofbd3 vfd3e hfd40 ofd50 hfd90 ofd92 hfdc8 ofdf0",
   "vfdfc hfdfe nfe00 vfe10 hfe1a nfe20 vfe30 cfe33 vfe35 cfe4d vfe50 hfe53 vfe54 hfe67 vfe68",
   "hfe6c ofe70 hfe75 ofe76 hfefd ffeff hff00 vff01 dff10 vff1a lff21 vff3b kff3e cff3f kff40",
   "lff41 vff5b off66 mff70 off71 mff9e offa0 hffbf offc2 hffc8 offca hffd0 offd2 hffd8 offda",
   "hffdd vffe0 kffe3 vffe4 hffe7 vffe8 hffef ffff9 vfffc hfffe o10000 h1000c o1000d h10027",
   "o10028 h1003b o1003c h1003e o1003f h1004e o10050 h1005e o10080 h100fb v10100 h10103 u10107",
   "h10134 v10137 r10140 u10175 v10179 u1018a v1018c h1018f v10190 h1019d v101a0 h101a1 v101d0",
   "n101fd h101fe o10280 h1029d o102a0 h102d1 n102e0 u102e1 h102fc o10300 u10320 h10324 o1032d",
   "r10341 o10342 r1034a h1034b o10350 n10376 h1037b o10380 h1039e v1039f o103a0 h103c4 o103c8",
   "v103d0 r103d1 h103d6 l10400 o10450 h1049e d104a0 h104aa l104b0 h104d4 l104d8 h104fc o10500",
   "h10528 o10530 h10564 v1056f h10570 o10600 h10737 o10740 h10756 o10760 h10768 o10800 h10806",
   "o10808 h10809 o1080a h10836 o10837 h10839 o1083c h1083d o1083f h10856 v10857 u10858 o10860",
   "v10877 u10879 o10880 h1089f u108a7 h108b0 o108e0 h108f3 o108f4 h108f6 u108fb o10900 u10916",
   "h1091c v1091f o10920 h1093a v1093f h10940 o10980 h109b8 u109bc o109be u109c0 h109d0 u109d2",
   "o10a00 n10a01 h10a04 n10a05 h10a07 n10a0c o10a10 h10a14 o10a15 h10a18 o10a19 h10a36 n10a38",
   "h10a3b n10a3f u10a40 h10a49 v10a50 h10a59 o10a60 u10a7d v10a7f o10a80 u10a9d h10aa0 o10ac0",
   "v10ac8 o10ac9 n10ae5 h10ae7 u10aeb v10af0 h10af7 o10b00 h10b36 v10b39 o10b40 h10b56 u10b58",
   "o10b60 h10b73 u10b78 o10b80 h10b92 v10b99 h10b9d u10ba9 h10bb0 o10c00 h10c49 l10c80 h10cb3",
   "l10cc0 h10cf3 u10cfa o10d00 n10d24 h10d28 d10d30 h10d3a u10e60 h10e7f o10e80 h10eaa n10eab",
   "v10ead h10eae o10eb0 h10eb2 o10f00 u10f1d o10f27 h10f28 o10f30 n10f46 u10f51 v10f55 h10f5a",
   "o10fb0 u10fc5 h10fcc o10fe0 h10ff7 s11000 n11001 s11002 o11003 n11038 v11047 h1104e u11052",
   "d11066 h11070 n1107f s11082 o11083 s110b0 n110b3 s110b7 n110b9 v110bb f110bd v110be h110c2",
   "f110cd h110ce o110d0 h110e9 d110f0 h110fa n11100 o11103 n11127 s1112c n1112d h11135 d11136",
   "v11140 o11144 s11145 o11147 h11148 o11150 n11173 v11174 o11176 h11177 n11180 s11182 o11183",
   "s111b3 n111b6 s111bf o111c1 v111c5 n111c9 v111cd s111ce n111cf d111d0 o111da v111db o111dc",
   "v111dd h111e0 u111e1 h111f5 o11200 h11212 o11213 s1122c n1122f s11232 n11234 s11235 n11236",
   "v11238 n1123e h1123f o11280 h11287 o11288 h11289 o1128a h1128e o1128f h1129e o1129f v112a9",
   "h112aa o112b0 n112df s112e0 n112e3 h112eb d112f0 h112fa n11300 s11302 h11304 o11305 h1130d",
   "o1130f h11311 o11313 h11329 o1132a h11331 o11332 h11334 o11335 h1133a n1133b o1133d s1133e",
   "n11340 s11341 h11345 s11347 h11349 s1134b h1134e o11350 h11351 s11357 h11358 o1135d s11362",
   "h11364 n11366 h1136d n11370 h11375 o11400 s11435 n11438 s11440 n11442 s11445 n11446 o11447",
   "v1144b d11450 v1145a h1145c v1145d n1145e o1145f h11462 o11480 s114b0 n114b3 s114b9 n114ba",
   "s114bb n114bf s114c1 n114c2 o114c4 v114c6 o114c7 h114c8 d114d0 h114da o11580 s115af n115b2",
   "h115b6 s115b8 n115bc s115be n115bf v115c1 o115d8 n115dc h115de o11600 s11630 n11633 s1163b",
   "n1163d s1163e n1163f v11641 o11644 h11645 d11650 h1165a v11660 h1166d o11680 n116ab s116ac",
   "n116ad s116ae n116b0 s116b6 n116b7 o116b8 h116b9 d116c0 h116ca o11700 h1171b n1171d s11720",
   "n11722 s11726 n11727 h1172c d11730 u1173a v1173c h11740 o11800 s1182c n1182f s11838 n11839",
   "v1183b h1183c l118a0 d118e0 u118ea h118f3 o118ff h11907 o11909 h1190a o1190c h11914 o11915",
   "h11917 o11918 s11930 h11936 s11937 h11939 n1193b s1193d n1193e o1193f s11940 o11941 s11942",
   "n11943 v11944 h11947 d11950 h1195a o119a0 h119a8 o119aa s119d1 n119d4 h119d8 n119da s119dc",
   "n119e0 o119e1 v119e2 o119e3 s119e4 h119e5 o11a00 n11a01 o11a0b n11a33 s11a39 o11a3a n11a3b",
   "v11a3f n11a47 h11a48 o11a50 n11a51 s11a57 n11a59 o11a5c n11a8a s11a97 n11a98 v11a9a o11a9d",
   "v11a9e h11aa3 o11ac0 h11af9 o11c00 h11c09 o11c0a s11c2f n11c30 h11c37 n11c38 s11c3e n11c3f",
   "o11c40 v11c41 h11c46 d11c50 u11c5a h11c6d v11c70 o11c72 h11c90 n11c92 h11ca8 s11ca9 n11caa",
   "s11cb1 n11cb2 s11cb4 n11cb5 h11cb7 o11d00 h11d07 o11d08 h11d0a o11d0b n11d31 h11d37 n11d3a",
   "h11d3b n11d3c h11d3e n11d3f o11d46 n11d47 h11d48 d11d50 h11d5a o11d60 h11d66 o11d67 h11d69",
   "o11d6a s11d8a h11d8f n11d90 h11d92 s11d93 n11d95 s11d96 n11d97 o11d98 h11d99 d11da0 h11daa",
   "o11ee0 n11ef3 s11ef5 v11ef7 h11ef9 o11fb0 h11fb1 u11fc0 v11fd5 h11ff2 v11fff o12000 h1239a",
   "r12400 h1246f v12470 h12475 o12480 h12544 o13000 h1342f f13430 h13439 o14400 h14647 o16800",
   "h16a39 o16a40 h16a5f d16a60 h16a6a v16a6e h16a70 o16ad0 h16aee n16af0 v16af5 h16af6 o16b00",
   "n16b30 v16b37 m16b40 v16b44 h16b46 d16b50 h16b5a u16b5b h16b62 o16b63 h16b78 o16b7d h16b90",
   "l16e40 u16e80 v16e97 h16e9b o16f00 h16f4b n16f4f o16f50 s16f51 h16f88 n16f8f m16f93 h16fa0",
   "m16fe0 v16fe2 m16fe3 n16fe4 h16fe5 s16ff0 h16ff2 o17000 h187f8 o18800 h18cd6 o18d00 h18d09",
   "o1b000 h1b11f o1b150 h1b153 o1b164 h1b168 o1b170 h1b2fc o1bc00 h1bc6b o1bc70 h1bc7d o1bc80",
   "h1bc89 o1bc90 h1bc9a v1bc9c n1bc9d v1bc9f f1bca0 h1bca4 v1d000 h1d0f6 v1d100 h1d127 v1d129",
   "s1d165 n1d167 v1d16a s1d16d f1d173 n1d17b v1d183 n1d185 v1d18c n1d1aa v1d1ae h1d1e9 v1d200",
   "n1d242 v1d245 h1d246 u1d2e0 h1d2f4 v1d300 h1d357 u1d360 h1d379 l1d400 h1d455 l1d456 h1d49d",
   "l1d49e h1d4a0 l1d4a2 h1d4a3 l1d4a5 h1d4a7 l1d4a9 h1d4ad l1d4ae h1d4ba l1d4bb h1d4bc l1d4bd",
   "h1d4c4 l1d4c5 h1d506 l1d507 h1d50b l1d50d h1d515 l1d516 h1d51d l1d51e h1d53a l1d53b h1d53f",
   "l1d540 h1d545 l1d546 h1d547 l1d54a h1d551 l1d552 h1d6a6 l1d6a8 v1d6c1 l1d6c2 v1d6db l1d6dc",
   "v1d6fb l1d6fc v1d715 l1d716 v1d735 l1d736 v1d74f l1d750 v1d76f l1d770 v1d789 l1d78a v1d7a9",
   "l1d7aa v1d7c3 l1d7c4 h1d7cc d1d7ce v1d800 n1da00 v1da37 n1da3b v1da6d n1da75 v1da76 n1da84",
   "v1da85 h1da8c n1da9b h1daa0 n1daa1 h1dab0 n1e000 h1e007 n1e008 h1e019 n1e01b h1e022 n1e023",
   "h1e025 n1e026 h1e02b o1e100 h1e12d n1e130 m1e137 h1e13e d1e140 h1e14a o1e14e v1e14f h1e150",
   "o1e2c0 n1e2ec d1e2f0 h1e2fa v1e2ff h1e300 o1e800 h1e8c5 u1e8c7 n1e8d0 h1e8d7 l1e900 n1e944",
   "m1e94b h1e94c d1e950 h1e95a v1e95e h1e960 u1ec71 v1ecac u1ecad v1ecb0 u1ecb1 h1ecb5 u1ed01",
   "v1ed2e u1ed2f h1ed3e o1ee00 h1ee04 o1ee05 h1ee20 o1ee21 h1ee23 o1ee24 h1ee25 o1ee27 h1ee28",
   "o1ee29 h1ee33 o1ee34 h1ee38 o1ee39 h1ee3a o1ee3b h1ee3c o1ee42 h1ee43 o1ee47 h1ee48 o1ee49",
   "h1ee4a o1ee4b h1ee4c o1ee4d h1ee50 o1ee51 h1ee53 o1ee54 h1ee55 o1ee57 h1ee58 o1ee59 h1ee5a",
   "o1ee5b h1ee5c o1ee5d h1ee5e o1ee5f h1ee60 o1ee61 h1ee63 o1ee64 h1ee65 o1ee67 h1ee6b o1ee6c",
   "h1ee73 o1ee74 h1ee78 o1ee79 h1ee7d o1ee7e h1ee7f o1ee80 h1ee8a o1ee8b h1ee9c o1eea1 h1eea4",
   "o1eea5 h1eeaa o1eeab h1eebc v1eef0 h1eef2 v1f000 h1f02c v1f030 h1f094 v1f0a0 h1f0af v1f0b1",
   "h1f0c0 v1f0c1 h1f0d0 v1f0d1 h1f0f6 u1f100 v1f10d h1f1ae v1f1e6 h1f203 v1f210 h1f23c v1f240",
   "h1f249 v1f250 h1f252 v1f260 h1f266 v1f300 k1f3fb v1f400 h1f6d8 v1f6e0 h1f6ed v1f6f0 h1f6fd",
   "v1f700 h1f774 v1f780 h1f7d9 v1f7e0 h1f7ec v1f800 h1f80c v1f810 h1f848 v1f850 h1f85a v1f860",
   "h1f888 v1f890 h1f8ae v1f8b0 h1f8b2 v1f900 h1f979 v1f97a h1f9cc v1f9cd h1fa54 v1fa60 h1fa6e",
   "v1fa70 h1fa75 v1fa78 h1fa7b v1fa80 h1fa87 v1fa90 h1faa9 v1fab0 h1fab7 v1fac0 h1fac3 v1fad0",
   "h1fad7 v1fb00 h1fb93 v1fb94 h1fbcb d1fbf0 h1fbfa o20000 h2a6de o2a700 h2b735 o2b740 h2b81e",
   "o2b820 h2cea2 o2ceb0 h2ebe1 o2f800 h2fa1e o30000 h3134b fe0001 he0002 fe0020 he0080 ne0100",
   "he01f0"]

end GestureScript.Text.Category
