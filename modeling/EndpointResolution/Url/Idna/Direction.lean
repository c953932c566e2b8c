import EndpointResolution.Text.HexTable

/-!
The direction of writing. If any label of a domain holds a character that is written from right to
left, every label has to keep to one direction.
-/
namespace EndpointResolution.Url.Idna

open Text (HexTable)

/-- Ranges of characters other than those written from left to right, with a number for their
class. -/
def directions : HexTable := .ofText "
0.8.5 9.d.7 e.1b.5 1c.20.7 21.2f.5 30.39.4 3a.40.5 5b.60.5 7b.84.5 85.85.7 86.a9.5 ab.b1.5 b2.b3.4
b4.b4.5 b6.b8.5 b9.b9.4 bb.bf.5 d7.d7.5 f7.f7.5 2b9.2ba.5 2c2.2cf.5 2d2.2df.5 2e5.2ed.5 2ef.2ff.5
300.36f.6 374.375.5 37e.37e.5 384.385.5 387.387.5 3f6.3f6.5 483.489.6 58a.58a.5 58d.58f.5
591.5bd.6 5be.5be.1 5bf.5bf.6 5c0.5c0.1 5c1.5c2.6 5c3.5c3.1 5c4.5c5.6 5c6.5c6.1 5c7.5c9.6
5d0.5ea.1 5ef.5f4.1 600.605.3 606.607.5 608.608.2 609.60a.5 60b.60b.2 60c.60c.5 60d.60d.2
60e.60f.5 610.61a.6 61b.64a.2 64b.65f.6 660.669.3 66a.66a.5 66b.66c.3 66d.66f.2 670.670.6
671.6d5.2 6d6.6dc.6 6dd.6dd.3 6de.6de.5 6df.6e4.6 6e5.6e6.2 6e7.6e8.6 6e9.6e9.5 6ea.6ed.6
6ee.6ef.2 6f0.6f9.4 6fa.70d.2 70f.710.2 711.711.6 712.72f.2 730.74a.6 74d.7a5.2 7a6.7b0.6
7b1.7b1.2 7c0.7ea.1 7eb.7f3.6 7f4.7f5.1 7f6.7f9.5 7fa.7fa.1 7fd.7fd.6 7fe.815.1 816.819.6
81a.81a.1 81b.823.6 824.824.1 825.827.6 828.828.1 829.82d.6 830.83e.1 840.858.1 859.85b.6
85e.85e.1 860.86a.2 870.88f.2 890.891.3 897.89f.6 8a0.8c9.2 8ca.8e1.6 8e2.8e2.3 8e3.902.6
93a.93a.6 93c.93c.6 941.948.6 94d.94d.6 951.957.6 962.963.6 981.981.6 9bc.9bc.6 9c1.9c4.6
9cd.9cd.6 9e2.9e3.6 9f2.9f3.5 9fb.9fb.5 9fe.9fe.6 a01.a02.6 a3c.a3c.6 a41.a42.6 a47.a48.6
a4b.a4d.6 a51.a51.6 a70.a71.6 a75.a75.6 a81.a82.6 abc.abc.6 ac1.ac5.6 ac7.ac8.6 acd.acd.6
ae2.ae3.6 af1.af1.5 afa.aff.6 b01.b01.6 b3c.b3c.6 b3f.b3f.6 b41.b44.6 b4d.b4d.6 b53.b56.6
b62.b63.6 b82.b82.6 bc0.bc0.6 bcd.bcd.6 bf3.bfa.5 c00.c00.6 c04.c04.6 c3c.c3c.6 c3e.c40.6
c46.c48.6 c4a.c4d.6 c55.c56.6 c62.c63.6 c78.c7e.5 c81.c81.6 cbc.cbc.6 ccc.ccd.6 ce2.ce3.6
d00.d01.6 d3b.d3c.6 d41.d44.6 d4d.d4d.6 d62.d63.6 d81.d81.6 dca.dca.6 dd2.dd4.6 dd6.dd6.6
e31.e31.6 e34.e3a.6 e3f.e3f.5 e47.e4e.6 eb1.eb1.6 eb4.ebc.6 ec8.ece.6 f18.f19.6 f35.f35.6
f37.f37.6 f39.f39.6 f3a.f3d.5 f71.f7e.6 f80.f84.6 f86.f87.6 f8d.f97.6 f99.fbc.6 fc6.fc6.6
102d.1030.6 1032.1037.6 1039.103a.6 103d.103e.6 1058.1059.6 105e.1060.6 1071.1074.6 1082.1082.6
1085.1086.6 108d.108d.6 109d.109d.6 135d.135f.6 1390.1399.5 1400.1400.5 1680.1680.7 169b.169c.5
1712.1714.6 1732.1733.6 1752.1753.6 1772.1773.6 17b4.17b5.6 17b7.17bd.6 17c6.17c6.6 17c9.17d3.6
17db.17db.5 17dd.17dd.6 17f0.17f9.5 1800.180a.5 180b.180d.6 180e.180e.5 180f.180f.6 1885.1886.6
18a9.18a9.6 1920.1922.6 1927.1928.6 1932.1932.6 1939.193b.6 1940.1940.5 1944.1945.5 19de.19ff.5
1a17.1a18.6 1a1b.1a1b.6 1a56.1a56.6 1a58.1a5e.6 1a60.1a60.6 1a62.1a62.6 1a65.1a6c.6 1a73.1a7c.6
1a7f.1a7f.6 1ab0.1af0.6 1b00.1b03.6 1b34.1b34.6 1b36.1b39.6 1b6b.1b73.6 1b80.1b81.6 1ba2.1ba5.6
1ba8.1ba9.6 1bab.1bad.6 1be6.1be6.6 1be8.1be9.6 1bed.1bed.6 1bef.1bf1.6 1c2c.1c33.6 1c36.1c37.6
1cd0.1cd2.6 1cd4.1ce0.6 1ce2.1ce8.6 1ced.1ced.6 1cf4.1cf4.6 1cf8.1cf9.6 1dc0.1dff.6 1fbd.1fbd.5
1fbf.1fc1.5 1fcd.1fcf.5 1fdd.1fdf.5 1fed.1fef.5 1ffd.1ffe.5 2000.200a.7 200b.200d.5 200f.200f.1
2010.2027.5 2028.202e.7 202f.205e.5 205f.205f.7 2060.2064.5 2066.2069.7 206a.206f.5 2070.2070.4
2074.2079.4 207a.207e.5 2080.2089.4 208a.208f.5 20a0.20c4.5 20d0.20f0.6 2100.2101.5 2103.2106.5
2108.2109.5 2114.2114.5 2116.2118.5 211e.2123.5 2125.2125.5 2127.2127.5 2129.2129.5 212e.212e.5
213a.213b.5 2140.2144.5 214a.214d.5 2150.215f.5 2189.218b.5 2190.2335.5 237b.2394.5 2396.2429.5
2440.244a.5 2460.2487.5 2488.249b.4 24ea.26ab.5 26ad.27ff.5 2900.2b73.5 2b76.2bff.5 2ce5.2cea.5
2cef.2cf1.6 2cf9.2cff.5 2d7f.2d7f.6 2de0.2dff.6 2e00.2e5d.5 2e60.2e63.5 2e80.2e99.5 2e9b.2ef3.5
2f00.2fd5.5 2ff0.2fff.5 3000.3000.7 3001.3004.5 3008.3020.5 302a.302d.6 3030.3030.5 3036.3037.5
303d.303f.5 3099.309a.6 309b.309c.5 30a0.30a0.5 30fb.30fb.5 31c0.31e5.5 31ef.31ef.5 321d.321e.5
3250.325f.5 327c.327e.5 32b1.32bf.5 32cc.32cf.5 3377.337a.5 33de.33df.5 33ff.33ff.5 4dc0.4dff.5
a490.a4c6.5 a60d.a60f.5 a66f.a672.6 a673.a673.5 a674.a67d.6 a67e.a67f.5 a69e.a69f.6 a6f0.a6f1.6
a700.a721.5 a788.a788.5 a802.a802.6 a806.a806.6 a80b.a80b.6 a825.a826.6 a828.a82b.5 a82c.a82c.6
a838.a839.5 a874.a877.5 a8c4.a8c5.6 a8e0.a8f1.6 a8ff.a8ff.6 a926.a92d.6 a947.a951.6 a980.a982.6
a9b3.a9b3.6 a9b6.a9b9.6 a9bc.a9bd.6 a9e5.a9e5.6 aa29.aa2e.6 aa31.aa32.6 aa35.aa36.6 aa43.aa43.6
aa4c.aa4c.6 aa7c.aa7c.6 aab0.aab0.6 aab2.aab4.6 aab7.aab8.6 aabe.aabf.6 aac1.aac1.6 aaec.aaed.6
aaf6.aaf6.6 ab6a.ab6b.5 abe5.abe5.6 abe8.abe8.6 abed.abed.6 fb1d.fb1d.1 fb1e.fb1e.6 fb1f.fb28.1
fb29.fb29.5 fb2a.fb36.1 fb38.fb3c.1 fb3e.fb3e.1 fb40.fb41.1 fb43.fb44.1 fb46.fb4f.1 fb50.fbc2.2
fbc3.fbd2.5 fbd3.fd3d.2 fd3e.fd4f.5 fd50.fd8f.2 fd90.fd91.5 fd92.fdc7.2 fdc8.fdcf.5 fdf0.fdfc.2
fdfd.fdff.5 fe00.fe0f.6 fe10.fe19.5 fe20.fe2f.6 fe30.fe52.5 fe54.fe66.5 fe68.fe6b.5 fe70.fe74.2
fe76.fefc.2 feff.feff.5 ff01.ff0f.5 ff10.ff19.4 ff1a.ff20.5 ff3b.ff40.5 ff5b.ff65.5 ffe0.ffe6.5
ffe8.ffee.5 fff9.fffd.5 10101.10101.5 10140.1018c.5 10190.1019c.5 101a0.101a0.5 101fd.101fd.6
102e0.102e0.6 102e1.102fb.4 10376.1037a.6 10800.10805.1 10808.10808.1 1080a.10835.1 10837.10838.1
1083c.1083c.1 1083f.10855.1 10857.1089e.1 108a7.108af.1 108e0.108f2.1 108f4.108f5.1 108fb.1091b.1
1091f.1091f.5 10920.10939.1 1093f.10959.1 10980.109b7.1 109bc.109cf.1 109d2.10a00.1 10a01.10a03.6
10a05.10a06.6 10a0c.10a0f.6 10a10.10a13.1 10a15.10a17.1 10a19.10a35.1 10a38.10a3a.6 10a3f.10a3f.6
10a40.10a48.1 10a50.10a58.1 10a60.10a9f.1 10ac0.10ae4.1 10ae5.10ae6.6 10aeb.10af6.1 10b00.10b35.1
10b39.10b3f.5 10b40.10b55.1 10b58.10b72.1 10b78.10b91.1 10b99.10b9c.1 10ba9.10baf.1 10c00.10c48.1
10c80.10cb2.1 10cc0.10cf2.1 10cfa.10cff.1 10d00.10d23.2 10d24.10d27.6 10d30.10d39.3 10d40.10d49.3
10d4a.10d65.1 10d69.10d6d.6 10d6e.10d6e.5 10d6f.10d85.1 10d8e.10d8f.1 10e60.10e7e.3 10e80.10ea9.1
10eab.10eac.6 10ead.10ead.1 10eb0.10eb1.1 10ec2.10ec7.2 10ec9.10eca.2 10ecb.10ecf.6 10ed0.10ed8.5
10ed9.10eee.2 10ef0.10eff.6 10f00.10f27.1 10f30.10f45.2 10f46.10f50.6 10f51.10f59.2 10f70.10f81.1
10f82.10f85.6 10f86.10f89.1 10fb0.10fcb.1 10fe0.10ff6.1 11001.11001.6 11038.11046.6 11052.11065.5
11070.11070.6 11073.11074.6 1107f.11081.6 110b3.110b6.6 110b9.110ba.6 110c2.110c2.6 11100.11102.6
11127.1112b.6 1112d.11134.6 11173.11173.6 11180.11181.6 111b6.111be.6 111c9.111cc.6 111cf.111cf.6
1122f.11231.6 11234.11234.6 11236.11237.6 1123e.1123e.6 11241.11241.6 112df.112df.6 112e3.112ea.6
11300.11301.6 1133b.1133c.6 11340.11340.6 11366.1136c.6 11370.11374.6 113bb.113c0.6 113ce.113ce.6
113d0.113d0.6 113d2.113d2.6 113e1.113e2.6 11438.1143f.6 11442.11444.6 11446.11446.6 1145e.1145e.6
114b3.114b8.6 114ba.114ba.6 114bf.114c0.6 114c2.114c3.6 115b2.115b5.6 115bc.115bd.6 115bf.115c0.6
115dc.115dd.6 11633.1163a.6 1163d.1163d.6 1163f.11640.6 11660.1166c.5 116ab.116ab.6 116ad.116ad.6
116b0.116b5.6 116b7.116b7.6 1171d.1171d.6 1171f.1171f.6 11722.11725.6 11727.1172b.6 1182f.11837.6
11839.1183a.6 1193b.1193c.6 1193e.1193e.6 11943.11943.6 119d4.119d7.6 119da.119db.6 119e0.119e0.6
11a01.11a06.6 11a09.11a0a.6 11a33.11a38.6 11a3b.11a3e.6 11a47.11a47.6 11a51.11a56.6 11a59.11a5b.6
11a8a.11a96.6 11a98.11a99.6 11b60.11b60.6 11b62.11b64.6 11b66.11b66.6 11c30.11c36.6 11c38.11c3d.6
11c92.11ca7.6 11caa.11cb0.6 11cb2.11cb3.6 11cb5.11cb6.6 11d31.11d36.6 11d3a.11d3a.6 11d3c.11d3d.6
11d3f.11d45.6 11d47.11d47.6 11d90.11d91.6 11d95.11d95.6 11d97.11d97.6 11df0.11df0.6 11ef3.11ef4.6
11f00.11f01.6 11f36.11f3a.6 11f40.11f40.6 11f42.11f42.6 11f5a.11f5a.6 11fd5.11ff1.5 13440.13440.6
13447.13455.6 1611e.16129.6 1612d.1612f.6 16af0.16af4.6 16b30.16b36.6 16f4f.16f4f.6 16f8f.16f92.6
16fe2.16fe2.5 16fe4.16fe4.6 1bc9d.1bc9e.6 1bca0.1bca3.5 1cc00.1ccef.5 1ccf0.1ccf9.4 1ccfa.1ccfc.5
1cd00.1ceb3.5 1ceba.1ced0.5 1ced2.1ced4.5 1cedd.1cefd.5 1cf00.1cf2d.6 1cf30.1cf46.6 1d127.1d128.6
1d167.1d169.6 1d173.1d17a.5 1d17b.1d182.6 1d185.1d18b.6 1d1aa.1d1ad.6 1d1e9.1d1ea.5 1d200.1d241.5
1d242.1d244.6 1d245.1d245.5 1d25b.1d25c.6 1d300.1d356.5 1d6db.1d6db.5 1d715.1d715.5 1d74f.1d74f.5
1d789.1d789.5 1d7c3.1d7c3.5 1d7ce.1d7ff.4 1da00.1da36.6 1da3b.1da6c.6 1da75.1da75.6 1da84.1da84.6
1da9b.1da9f.6 1daa1.1daaf.6 1db00.1db1c.5 1e000.1e006.6 1e008.1e018.6 1e01b.1e021.6 1e023.1e024.6
1e026.1e02a.6 1e08f.1e08f.6 1e130.1e136.6 1e2ae.1e2ae.6 1e2ec.1e2ef.6 1e2ff.1e2ff.5 1e4ec.1e4ef.6
1e5ee.1e5ef.6 1e6e3.1e6e3.6 1e6e6.1e6e6.6 1e6ee.1e6ef.6 1e6f5.1e6f5.6 1e800.1e8c4.1 1e8c7.1e8cf.1
1e8d0.1e8d6.6 1e900.1e943.1 1e944.1e94a.6 1e94b.1e94b.1 1e950.1e959.1 1e95e.1e95f.1 1ec71.1ecb4.2
1ed01.1ed3d.2 1ee00.1ee03.2 1ee05.1ee1f.2 1ee21.1ee22.2 1ee24.1ee24.2 1ee27.1ee27.2 1ee29.1ee32.2
1ee34.1ee37.2 1ee39.1ee39.2 1ee3b.1ee3b.2 1ee42.1ee42.2 1ee47.1ee47.2 1ee49.1ee49.2 1ee4b.1ee4b.2
1ee4d.1ee4f.2 1ee51.1ee52.2 1ee54.1ee54.2 1ee57.1ee57.2 1ee59.1ee59.2 1ee5b.1ee5b.2 1ee5d.1ee5d.2
1ee5f.1ee5f.2 1ee61.1ee62.2 1ee64.1ee64.2 1ee67.1ee6a.2 1ee6c.1ee72.2 1ee74.1ee77.2 1ee79.1ee7c.2
1ee7e.1ee7e.2 1ee80.1ee89.2 1ee8b.1ee9b.2 1eea1.1eea3.2 1eea5.1eea9.2 1eeab.1eebb.2 1eef0.1eef1.5
1f000.1f02b.5 1f030.1f093.5 1f0a0.1f0ae.5 1f0b1.1f0bf.5 1f0c1.1f0cf.5 1f0d1.1f0f5.5 1f100.1f10a.4
1f10b.1f10f.5 1f12f.1f12f.5 1f16a.1f16f.5 1f1ad.1f1ad.5 1f260.1f265.5 1f300.1f6d9.5 1f6dc.1f6ec.5
1f6f0.1f6fc.5 1f700.1f7d9.5 1f7db.1f7db.5 1f7e0.1f7eb.5 1f7f0.1f80b.5 1f810.1f847.5 1f850.1f859.5
1f860.1f887.5 1f890.1f8ad.5 1f8b0.1f8bb.5 1f8c0.1f8c1.5 1f8d0.1f8d8.5 1f900.1fa57.5 1fa60.1fa6d.5
1fa70.1fa7c.5 1fa80.1fac6.5 1fac8.1fac8.5 1facc.1fadd.5 1fadf.1faeb.5 1faef.1fafa.5 1fb00.1fb92.5
1fb94.1fbef.5 1fbf0.1fbf9.4 1fbfa.1fbfa.5 e0001.e0001.5 e0020.e007f.5 e0100.e01ef.6"

/-- The part that a character plays in the direction of writing. -/
inductive Direction where
  | left
  | right
  | arabicLetter
  | arabicNumber
  | europeanNumber
  /-- Separators, symbols and whatever else goes along with its surroundings. -/
  | neutral
  | mark
  /-- Spaces and controls of the direction. -/
  | foreign
  deriving DecidableEq, Repr

/-- The part that a class stands for. -/
def Direction.ofClass : List Nat → Direction
  | [1] => .right
  | [2] => .arabicLetter
  | [3] => .arabicNumber
  | [4] => .europeanNumber
  | [5] => .neutral
  | [6] => .mark
  | _ => .foreign

/-- The part that a character plays. -/
def direction (c : Char) : Direction :=
  ((directions.inRange? c.toNat).map Direction.ofClass).getD .left

/-- The label holds a character that is written from right to left. -/
def hasRightToLeft (label : List Char) : Bool :=
  label.any fun c => [.right, .arabicLetter, .arabicNumber].contains (direction c)

/-- The label keeps to the direction of its first character, and ends in a letter or a number, if
marks at the end do not count. European and Arabic numbers do not meet in a label from right to
left. -/
def keepsDirection (label : List Char) : Bool :=
  let parts := label.map direction
  let ending := (parts.reverse.dropWhile (· == .mark)).head?
  match parts.head? with
  | none => true
  | some .left =>
    parts.all (fun part => [.left, .europeanNumber, .neutral, .mark].contains part)
      && (ending == some .left || ending == some .europeanNumber)
  | some .right | some .arabicLetter =>
    parts.all (fun part => part != .left && part != .foreign)
      && (match ending with
        | some part => [.right, .arabicLetter, .europeanNumber, .arabicNumber].contains part
        | none => false)
      && !(parts.contains .europeanNumber && parts.contains .arabicNumber)
  | some _ => false

end EndpointResolution.Url.Idna
