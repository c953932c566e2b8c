import EndpointResolution.Url.Idna.Normalization

/-!
Where a label may have a mark or a joiner. No label starts with a mark; a joiner stands after a
virama, and a non-joiner also between letters that would join without it.
-/
namespace EndpointResolution.Url.Idna

open Text (HexTable)

/-- Ranges of the characters of the general category M. -/
def marks : HexTable := .ofText "
300.36f 483.489 591.5bd 5bf.5bf 5c1.5c2 5c4.5c5 5c7.5c9 610.61a 64b.65f 670.670 6d6.6dc 6df.6e4
6e7.6e8 6ea.6ed 711.711 730.74a 7a6.7b0 7eb.7f3 7fd.7fd 816.819 81b.823 825.827 829.82d 859.85b
897.89f 8ca.8e1 8e3.903 93a.93c 93e.94f 951.957 962.963 981.983 9bc.9bc 9be.9c4 9c7.9c8 9cb.9cd
9d7.9d7 9e2.9e3 9fe.9fe a01.a03 a3c.a3c a3e.a42 a47.a48 a4b.a4d a51.a51 a70.a71 a75.a75 a81.a83
abc.abc abe.ac5 ac7.ac9 acb.acd ae2.ae3 afa.aff b01.b03 b3c.b3c b3e.b44 b47.b48 b4b.b4d b53.b57
b62.b63 b82.b82 bbe.bc2 bc6.bc8 bca.bcd bd7.bd7 c00.c04 c3c.c3c c3e.c44 c46.c48 c4a.c4d c55.c56
c62.c63 c81.c83 cbc.cbc cbe.cc4 cc6.cc8 cca.ccd cd5.cd6 ce2.ce3 cf3.cf3 d00.d03 d3b.d3c d3e.d44
d46.d48 d4a.d4d d57.d57 d62.d63 d81.d83 dca.dca dcf.dd4 dd6.dd6 dd8.ddf df2.df3 e31.e31 e34.e3a
e47.e4e eb1.eb1 eb4.ebc ec8.ece f18.f19 f35.f35 f37.f37 f39.f39 f3e.f3f f71.f84 f86.f87 f8d.f97
f99.fbc fc6.fc6 102b.103e 1056.1059 105e.1060 1062.1064 1067.106d 1071.1074 1082.108d 108f.108f
109a.109d 135d.135f 1712.1715 1732.1734 1752.1753 1772.1773 17b4.17d3 17dd.17dd 180b.180d
180f.180f 1885.1886 18a9.18a9 1920.192b 1930.193b 1a17.1a1b 1a55.1a5e 1a60.1a7c 1a7f.1a7f
1ab0.1af0 1b00.1b04 1b34.1b44 1b6b.1b73 1b80.1b82 1ba1.1bad 1be6.1bf3 1c24.1c37 1cd0.1cd2
1cd4.1ce8 1ced.1ced 1cf4.1cf4 1cf7.1cf9 1dc0.1dff 20d0.20f0 2cef.2cf1 2d7f.2d7f 2de0.2dff
302a.302f 3099.309a a66f.a672 a674.a67d a69e.a69f a6f0.a6f1 a802.a802 a806.a806 a80b.a80b
a823.a827 a82c.a82c a880.a881 a8b4.a8c5 a8e0.a8f1 a8ff.a8ff a926.a92d a947.a953 a980.a983
a9b3.a9c0 a9e5.a9e5 aa29.aa36 aa43.aa43 aa4c.aa4d aa7b.aa7d aab0.aab0 aab2.aab4 aab7.aab8
aabe.aabf aac1.aac1 aaeb.aaef aaf5.aaf6 abe3.abea abec.abed fb1e.fb1e fe00.fe0f fe20.fe2f
101fd.101fd 102e0.102e0 10376.1037a 10a01.10a03 10a05.10a06 10a0c.10a0f 10a38.10a3a 10a3f.10a3f
10ae5.10ae6 10d24.10d27 10d69.10d6d 10eab.10eac 10ecb.10ecf 10ef0.10eff 10f46.10f50 10f82.10f85
11000.11002 11038.11046 11070.11070 11073.11074 1107f.11082 110b0.110ba 110c2.110c2 11100.11102
11127.11134 11145.11146 11173.11173 11180.11182 111b3.111c0 111c9.111cc 111ce.111cf 1122c.11237
1123e.1123e 11241.11241 112df.112ea 11300.11303 1133b.1133c 1133e.11344 11347.11348 1134b.1134d
11357.11357 11362.11363 11366.1136c 11370.11374 113b8.113c0 113c2.113c2 113c5.113c5 113c7.113ca
113cc.113d0 113d2.113d2 113e1.113e2 11435.11446 1145e.1145e 114b0.114c3 115af.115b5 115b8.115c0
115dc.115dd 11630.11640 116ab.116b7 1171d.1172b 1182c.1183a 11930.11935 11937.11938 1193b.1193e
11940.11940 11942.11943 119d1.119d7 119da.119e0 119e4.119e4 11a01.11a0a 11a33.11a39 11a3b.11a3e
11a47.11a47 11a51.11a5b 11a8a.11a99 11b60.11b67 11c2f.11c36 11c38.11c3f 11c92.11ca7 11ca9.11cb6
11d31.11d36 11d3a.11d3a 11d3c.11d3d 11d3f.11d45 11d47.11d47 11d8a.11d8e 11d90.11d91 11d93.11d97
11df0.11df0 11ef3.11ef6 11f00.11f01 11f03.11f03 11f34.11f3a 11f3e.11f42 11f5a.11f5a 13440.13440
13447.13455 1611e.1612f 16af0.16af4 16b30.16b36 16f4f.16f4f 16f51.16f87 16f8f.16f92 16fe4.16fe4
16ff0.16ff1 1bc9d.1bc9e 1cf00.1cf2d 1cf30.1cf46 1d127.1d128 1d165.1d169 1d16d.1d172 1d17b.1d182
1d185.1d18b 1d1aa.1d1ad 1d242.1d244 1d250.1d252 1d25b.1d25c 1d25f.1d25f 1d280.1d281 1da00.1da36
1da3b.1da6c 1da75.1da75 1da84.1da84 1da9b.1da9f 1daa1.1daaf 1e000.1e006 1e008.1e018 1e01b.1e021
1e023.1e024 1e026.1e02a 1e08f.1e08f 1e130.1e136 1e2ae.1e2ae 1e2ec.1e2ef 1e4ec.1e4ef 1e5ee.1e5ef
1e6e3.1e6e3 1e6e6.1e6e6 1e6ee.1e6ef 1e6f5.1e6f5 1e8d0.1e8d6 1e944.1e94a e0100.e01ef"

/-- Ranges of characters that join letters on their left (1), on both sides (2) or on their right
(3), or are passed over in joining (4). -/
def joiningTypes : HexTable := .ofText "
ad.ad.4 300.36f.4 483.489.4 591.5bd.4 5bf.5bf.4 5c1.5c2.4 5c4.5c5.4 5c7.5c9.4 610.61a.4 61c.61c.4
620.620.2 622.625.3 626.626.2 627.627.3 628.628.2 629.629.3 62a.62e.2 62f.632.3 633.63f.2
641.647.2 648.648.3 649.64a.2 64b.65f.4 66e.66f.2 670.670.4 671.673.3 675.677.3 678.687.2
688.699.3 69a.6bf.2 6c0.6c0.3 6c1.6c2.2 6c3.6cb.3 6cc.6cc.2 6cd.6cd.3 6ce.6ce.2 6cf.6cf.3
6d0.6d1.2 6d2.6d3.3 6d5.6d5.3 6d6.6dc.4 6df.6e4.4 6e7.6e8.4 6ea.6ed.4 6ee.6ef.3 6fa.6fc.2
6ff.6ff.2 70f.70f.4 710.710.3 711.711.4 712.714.2 715.719.3 71a.71d.2 71e.71e.3 71f.727.2
728.728.3 729.729.2 72a.72a.3 72b.72b.2 72c.72c.3 72d.72e.2 72f.72f.3 730.74a.4 74d.74d.3
74e.758.2 759.75b.3 75c.76a.2 76b.76c.3 76d.770.2 771.771.3 772.772.2 773.774.3 775.777.2
778.779.3 77a.77f.2 7a6.7b0.4 7ca.7ea.2 7eb.7f3.4 7fd.7fd.4 816.819.4 81b.823.4 825.827.4
829.82d.4 840.840.3 841.845.2 846.847.3 848.848.2 849.849.3 84a.853.2 854.854.3 855.855.2
856.858.3 859.85b.4 860.860.2 862.865.2 867.867.3 868.868.2 869.86a.3 870.882.3 886.886.2
889.88d.2 88e.88e.3 88f.88f.2 897.89f.4 8a0.8a9.2 8aa.8ac.3 8ae.8ae.3 8af.8b0.2 8b1.8b2.3
8b3.8b8.2 8b9.8b9.3 8ba.8c8.2 8ca.8e1.4 8e3.902.4 93a.93a.4 93c.93c.4 941.948.4 94d.94d.4
951.957.4 962.963.4 981.981.4 9bc.9bc.4 9c1.9c4.4 9cd.9cd.4 9e2.9e3.4 9fe.9fe.4 a01.a02.4
a3c.a3c.4 a41.a42.4 a47.a48.4 a4b.a4d.4 a51.a51.4 a70.a71.4 a75.a75.4 a81.a82.4 abc.abc.4
ac1.ac5.4 ac7.ac8.4 acd.acd.4 ae2.ae3.4 afa.aff.4 b01.b01.4 b3c.b3c.4 b3f.b3f.4 b41.b44.4
b4d.b4d.4 b53.b56.4 b62.b63.4 b82.b82.4 bc0.bc0.4 bcd.bcd.4 c00.c00.4 c04.c04.4 c3c.c3c.4
c3e.c40.4 c46.c48.4 c4a.c4d.4 c55.c56.4 c62.c63.4 c81.c81.4 cbc.cbc.4 cbf.cbf.4 cc6.cc6.4
ccc.ccd.4 ce2.ce3.4 d00.d01.4 d3b.d3c.4 d41.d44.4 d4d.d4d.4 d62.d63.4 d81.d81.4 dca.dca.4
dd2.dd4.4 dd6.dd6.4 e31.e31.4 e34.e3a.4 e47.e4e.4 eb1.eb1.4 eb4.ebc.4 ec8.ece.4 f18.f19.4
f35.f35.4 f37.f37.4 f39.f39.4 f71.f7e.4 f80.f84.4 f86.f87.4 f8d.f97.4 f99.fbc.4 fc6.fc6.4
102d.1030.4 1032.1037.4 1039.103a.4 103d.103e.4 1058.1059.4 105e.1060.4 1071.1074.4 1082.1082.4
1085.1086.4 108d.108d.4 109d.109d.4 135d.135f.4 1712.1714.4 1732.1733.4 1752.1753.4 1772.1773.4
17b4.17b5.4 17b7.17bd.4 17c6.17c6.4 17c9.17d3.4 17dd.17dd.4 1807.1807.2 180b.180d.4 180f.180f.4
1820.1878.2 1885.1886.4 1887.18a8.2 18a9.18a9.4 18aa.18aa.2 1920.1922.4 1927.1928.4 1932.1932.4
1939.193b.4 1a17.1a18.4 1a1b.1a1b.4 1a56.1a56.4 1a58.1a5e.4 1a60.1a60.4 1a62.1a62.4 1a65.1a6c.4
1a73.1a7c.4 1a7f.1a7f.4 1ab0.1af0.4 1b00.1b03.4 1b34.1b34.4 1b36.1b39.4 1b6b.1b73.4 1b80.1b81.4
1ba2.1ba5.4 1ba8.1ba9.4 1bab.1bad.4 1be6.1be6.4 1be8.1be9.4 1bed.1bed.4 1bef.1bf1.4 1c2c.1c33.4
1c36.1c37.4 1cd0.1cd2.4 1cd4.1ce0.4 1ce2.1ce8.4 1ced.1ced.4 1cf4.1cf4.4 1cf8.1cf9.4 1dc0.1dff.4
200b.200b.4 200e.200f.4 202a.202e.4 2060.2064.4 206a.206f.4 20d0.20f0.4 2cef.2cf1.4 2d7f.2d7f.4
2de0.2dff.4 302a.302d.4 3099.309a.4 a66f.a672.4 a674.a67d.4 a69e.a69f.4 a6f0.a6f1.4 a802.a802.4
a806.a806.4 a80b.a80b.4 a825.a826.4 a82c.a82c.4 a840.a871.2 a872.a872.1 a8c4.a8c5.4 a8e0.a8f1.4
a8ff.a8ff.4 a926.a92d.4 a947.a951.4 a980.a982.4 a9b3.a9b3.4 a9b6.a9b9.4 a9bc.a9bd.4 a9e5.a9e5.4
aa29.aa2e.4 aa31.aa32.4 aa35.aa36.4 aa43.aa43.4 aa4c.aa4c.4 aa7c.aa7c.4 aab0.aab0.4 aab2.aab4.4
aab7.aab8.4 aabe.aabf.4 aac1.aac1.4 aaec.aaed.4 aaf6.aaf6.4 abe5.abe5.4 abe8.abe8.4 abed.abed.4
fb1e.fb1e.4 fe00.fe0f.4 fe20.fe2f.4 feff.feff.4 fff9.fffb.4 101fd.101fd.4 102e0.102e0.4
10376.1037a.4 10a01.10a03.4 10a05.10a06.4 10a0c.10a0f.4 10a38.10a3a.4 10a3f.10a3f.4 10ac0.10ac4.2
10ac5.10ac5.3 10ac7.10ac7.3 10ac9.10aca.3 10acd.10acd.1 10ace.10ad2.3 10ad3.10ad6.2 10ad7.10ad7.1
10ad8.10adc.2 10add.10add.3 10ade.10ae0.2 10ae1.10ae1.3 10ae4.10ae4.3 10ae5.10ae6.4 10aeb.10aee.2
10aef.10aef.3 10b80.10b80.2 10b81.10b81.3 10b82.10b82.2 10b83.10b85.3 10b86.10b88.2 10b89.10b89.3
10b8a.10b8b.2 10b8c.10b8c.3 10b8d.10b8d.2 10b8e.10b8f.3 10b90.10b90.2 10b91.10b91.3 10ba9.10bac.3
10bad.10bae.2 10d00.10d00.1 10d01.10d21.2 10d22.10d22.3 10d23.10d23.2 10d24.10d27.4 10d69.10d6d.4
10eab.10eac.4 10ec2.10ec2.3 10ec3.10ec4.2 10ec6.10ec7.2 10ecb.10ecf.4 10ed9.10eee.1 10ef0.10eff.4
10f30.10f32.2 10f33.10f33.3 10f34.10f44.2 10f46.10f50.4 10f51.10f53.2 10f54.10f54.3 10f70.10f73.2
10f74.10f75.3 10f76.10f81.2 10f82.10f85.4 10fb0.10fb0.2 10fb2.10fb3.2 10fb4.10fb6.3 10fb8.10fb8.2
10fb9.10fba.3 10fbb.10fbc.2 10fbd.10fbd.3 10fbe.10fbf.2 10fc1.10fc1.2 10fc2.10fc3.3 10fc4.10fc4.2
10fc9.10fc9.3 10fca.10fca.2 10fcb.10fcb.1 11001.11001.4 11038.11046.4 11070.11070.4 11073.11074.4
1107f.11081.4 110b3.110b6.4 110b9.110ba.4 110c2.110c2.4 11100.11102.4 11127.1112b.4 1112d.11134.4
11173.11173.4 11180.11181.4 111b6.111be.4 111c9.111cc.4 111cf.111cf.4 1122f.11231.4 11234.11234.4
11236.11237.4 1123e.1123e.4 11241.11241.4 112df.112df.4 112e3.112ea.4 11300.11301.4 1133b.1133c.4
11340.11340.4 11366.1136c.4 11370.11374.4 113bb.113c0.4 113ce.113ce.4 113d0.113d0.4 113d2.113d2.4
113e1.113e2.4 11438.1143f.4 11442.11444.4 11446.11446.4 1145e.1145e.4 114b3.114b8.4 114ba.114ba.4
114bf.114c0.4 114c2.114c3.4 115b2.115b5.4 115bc.115bd.4 115bf.115c0.4 115dc.115dd.4 11633.1163a.4
1163d.1163d.4 1163f.11640.4 116ab.116ab.4 116ad.116ad.4 116b0.116b5.4 116b7.116b7.4 1171d.1171d.4
1171f.1171f.4 11722.11725.4 11727.1172b.4 1182f.11837.4 11839.1183a.4 1193b.1193c.4 1193e.1193e.4
11943.11943.4 119d4.119d7.4 119da.119db.4 119e0.119e0.4 11a01.11a0a.4 11a33.11a38.4 11a3b.11a3e.4
11a47.11a47.4 11a51.11a56.4 11a59.11a5b.4 11a8a.11a96.4 11a98.11a99.4 11b60.11b60.4 11b62.11b64.4
11b66.11b66.4 11c30.11c36.4 11c38.11c3d.4 11c3f.11c3f.4 11c92.11ca7.4 11caa.11cb0.4 11cb2.11cb3.4
11cb5.11cb6.4 11d31.11d36.4 11d3a.11d3a.4 11d3c.11d3d.4 11d3f.11d45.4 11d47.11d47.4 11d90.11d91.4
11d95.11d95.4 11d97.11d97.4 11df0.11df0.4 11ef3.11ef4.4 11f00.11f01.4 11f36.11f3a.4 11f40.11f40.4
11f42.11f42.4 11f5a.11f5a.4 13430.13440.4 13447.13455.4 1611e.16129.4 1612d.1612f.4 16af0.16af4.4
16b30.16b36.4 16f4f.16f4f.4 16f8f.16f92.4 16fe4.16fe4.4 1bc9d.1bc9e.4 1bca0.1bca3.4 1cf00.1cf2d.4
1cf30.1cf46.4 1d127.1d128.4 1d167.1d169.4 1d173.1d182.4 1d185.1d18b.4 1d1aa.1d1ad.4 1d242.1d244.4
1d25b.1d25c.4 1da00.1da36.4 1da3b.1da6c.4 1da75.1da75.4 1da84.1da84.4 1da9b.1da9f.4 1daa1.1daaf.4
1e000.1e006.4 1e008.1e018.4 1e01b.1e021.4 1e023.1e024.4 1e026.1e02a.4 1e08f.1e08f.4 1e130.1e136.4
1e2ae.1e2ae.4 1e2ec.1e2ef.4 1e4ec.1e4ef.4 1e5ee.1e5ef.4 1e6e3.1e6e3.4 1e6e6.1e6e6.4 1e6ee.1e6ef.4
1e6f5.1e6f5.4 1e8d0.1e8d6.4 1e900.1e943.2 1e944.1e94b.4 e0001.e0001.4 e0020.e007f.4 e0100.e01ef.4"

/-- The character is a mark. -/
def isMark (c : Char) : Bool :=
  0x300 ≤ c.toNat && (marks.inRange? c.toNat).isSome

/-- The joining type of a character, or 0 if it joins nothing. -/
def joiningType (c : Char) : Nat :=
  match joiningTypes.inRange? c.toNat with
  | some [value] => value
  | _ => 0

/-- The joining type of the first character that is not passed over. -/
def nextJoining (text : List Char) : Nat :=
  match text.dropWhile fun c => joiningType c == 4 with
  | c :: _ => joiningType c
  | [] => 0

/-- The combining class of viramas. -/
def viramaClass : Nat := 9

/-- Every joiner may stand where it does, given the characters before, last one first. -/
def joinersFit (before : List Char) : List Char → Bool
  | [] => true
  | c :: rest =>
    let afterVirama := match before with
      | last :: _ => combiningClass last == viramaClass
      | [] => false
    let between := [1, 2].contains (nextJoining before) && [2, 3].contains (nextJoining rest)
    let fits :=
      if c.toNat = 0x200c then afterVirama || between
      else if c.toNat = 0x200d then afterVirama
      else true
    fits && joinersFit (c :: before) rest

/-- The label starts with no mark, and its joiners fit. -/
def isWellJoined (label : List Char) : Bool :=
  !(label.head?.any isMark) && joinersFit [] label

end EndpointResolution.Url.Idna
