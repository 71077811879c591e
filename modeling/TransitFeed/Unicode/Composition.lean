import TransitFeed.Unicode.Runs
import Std.Data.TreeMap.Basic

/-! # Composed characters

A character with a mark can be one composed character or the two in a row. In the composed form of
a text the marks of a character stand in a fixed order and all that can be composed is composed.
-/

namespace TransitFeed.Unicode

namespace Composition

/-- The full decomposition of each character that has one. -/
def decompositions : Runs := .ofText
  "c0D41.300 1D41.301 1D41.302 1D41.303 1D41.308 1D41.30a 2D43.327 1D45.300 1D45.301 1D45.302
1D45.308 1D49.300 1D49.301 1D49.302 1D49.308 2D4e.303 1D4f.300 1D4f.301 1D4f.302 1D4f.303 1D4f.308
3D55.300 1D55.301 1D55.302 1D55.308 1D59.301 3D61.300 1D61.301 1D61.302 1D61.303 1D61.308 1D61.30a
2D63.327 1D65.300 1D65.301 1D65.302 1D65.308 1D69.300 1D69.301 1D69.302 1D69.308 2D6e.303 1D6f.300
1D6f.301 1D6f.302 1D6f.303 1D6f.308 3D75.300 1D75.301 1D75.302 1D75.308 1D79.301 2D79.308 1D41.304
1D61.304 1D41.306 1D61.306 1D41.328 1D61.328 1D43.301 1D63.301 1D43.302 1D63.302 1D43.307 1D63.307
1D43.30c 1D63.30c 1D44.30c 1D64.30c 3D45.304 1D65.304 1D45.306 1D65.306 1D45.307 1D65.307 1D45.328
1D65.328 1D45.30c 1D65.30c 1D47.302 1D67.302 1D47.306 1D67.306 1D47.307 1D67.307 1D47.327 1D67.327
1D48.302 1D68.302 3D49.303 1D69.303 1D49.304 1D69.304 1D49.306 1D69.306 1D49.328 1D69.328 1D49.307
4D4a.302 1D6a.302 1D4b.327 1D6b.327 2D4c.301 1D6c.301 1D4c.327 1D6c.327 1D4c.30c 1D6c.30c 5D4e.301
1D6e.301 1D4e.327 1D6e.327 1D4e.30c 1D6e.30c 4D4f.304 1D6f.304 1D4f.306 1D6f.306 1D4f.30b 1D6f.30b
3D52.301 1D72.301 1D52.327 1D72.327 1D52.30c 1D72.30c 1D53.301 1D73.301 1D53.302 1D73.302 1D53.327
1D73.327 1D53.30c 1D73.30c 1D54.327 1D74.327 1D54.30c 1D74.30c 3D55.303 1D75.303 1D55.304 1D75.304
1D55.306 1D75.306 1D55.30a 1D75.30a 1D55.30b 1D75.30b 1D55.328 1D75.328 1D57.302 1D77.302 1D59.302
1D79.302 1D59.308 1D5a.301 1D7a.301 1D5a.307 1D7a.307 1D5a.30c 1D7a.30c 22D4f.31b 1D6f.31b
eD55.31b 1D75.31b 1dD41.30c 1D61.30c 1D49.30c 1D69.30c 1D4f.30c 1D6f.30c 1D55.30c 1D75.30c
1D55.308.304 1D75.308.304 1D55.308.301 1D75.308.301 1D55.308.30c 1D75.308.30c 1D55.308.300
1D75.308.300 2D41.308.304 1D61.308.304 1D41.307.304 1D61.307.304 1Dc6.304 1De6.304 3D47.30c
1D67.30c 1D4b.30c 1D6b.30c 1D4f.328 1D6f.328 1D4f.328.304 1D6f.328.304 1D1b7.30c 1D292.30c
1D6a.30c 4D47.301 1D67.301 3D4e.300 1D6e.300 1D41.30a.301 1D61.30a.301 1Dc6.301 1De6.301 1Dd8.301
1Df8.301 1D41.30f 1D61.30f 1D41.311 1D61.311 1D45.30f 1D65.30f 1D45.311 1D65.311 1D49.30f 1D69.30f
1D49.311 1D69.311 1D4f.30f 1D6f.30f 1D4f.311 1D6f.311 1D52.30f 1D72.30f 1D52.311 1D72.311 1D55.30f
1D75.30f 1D55.311 1D75.311 1D53.326 1D73.326 1D54.326 1D74.326 3D48.30c 1D68.30c 7D41.307 1D61.307
1D45.327 1D65.327 1D4f.308.304 1D6f.308.304 1D4f.303.304 1D6f.303.304 1D4f.307 1D6f.307
1D4f.307.304 1D6f.307.304 1D59.304 1D79.304 10dD300 1D301 2D313 1D308.301 30D2b9 aD3b 7Da8.301
1D391.301 1Db7 1D395.301 1D397.301 1D399.301 2D39f.301 2D3a5.301 1D3a9.301 1D3b9.308.301
1aD399.308 1D3a5.308 1D3b1.301 1D3b5.301 1D3b7.301 1D3b9.301 1D3c5.308.301 1aD3b9.308 1D3c5.308
1D3bf.301 1D3c5.301 1D3c9.301 5D3d2.301 1D3d2.308 2cD415.300 1D415.308 2D413.301 4D406.308
5D41a.301 1D418.300 1D423.306 bD418.306 20D438.306 17D435.300 1D435.308 2D433.301 4D456.308
5D43a.301 1D438.300 1D443.306 18D474.30f 1D475.30f 4aD416.306 1D436.306 eD410.306 1D430.306
1D410.308 1D430.308 3D415.306 1D435.306 3D4d8.308 1D4d9.308 1D416.308 1D436.308 1D417.308
1D437.308 3D418.304 1D438.304 1D418.308 1D438.308 1D41e.308 1D43e.308 3D4e8.308 1D4e9.308
1D42d.308 1D44d.308 1D423.304 1D443.304 1D423.308 1D443.308 1D423.30b 1D443.30b 1D427.308
1D447.308 3D42b.308 1D44b.308 129D627.653 1D627.654 1D648.654 1D627.655 1D64a.654 9aD6d5.654
2D6c1.654 11D6d2.654 256D928.93c 8D930.93c 3D933.93c 24D915.93c 1D916.93c 1D917.93c 1D91c.93c
1D921.93c 1D922.93c 1D92b.93c 1D92f.93c 6cD9c7.9be 1D9c7.9d7 10D9a1.9bc 1D9a2.9bc 2D9af.9bc
54Da32.a3c 3Da38.a3c 23Da16.a3c 1Da17.a3c 1Da1c.a3c 3Da2b.a3c eaDb47.b56 3Db47.b3e 1Db47.b57
10Db21.b3c 1Db22.b3c 37Db92.bd7 36Dbc6.bbe 1Dbc7.bbe 1Dbc6.bd7 7cDc46.c56 78Dcbf.cd5 7Dcc6.cd5
1Dcc6.cd6 2Dcc6.cc2 1Dcc6.cc2.cd5 7fDd46.d3e 1Dd47.d3e 1Dd46.d57 8eDdd9.dca 2Ddd9.dcf
1Ddd9.dcf.dca 1Ddd9.ddf 165Df42.fb7 aDf4c.fb7 5Df51.fb7 5Df56.fb7 5Df5b.fb7 dDf40.fb5 aDf71.f72
2Df71.f74 1Dfb2.f80 2Dfb3.f80 9Df71.f80 12Df92.fb7 aDf9c.fb7 5Dfa1.fb7 5Dfa6.fb7 5Dfab.fb7
dDf90.fb5 6dD1025.102e ae0D1b05.1b35 2D1b07.1b35 2D1b09.1b35 2D1b0b.1b35 2D1b0d.1b35 4D1b11.1b35
29D1b3a.1b35 2D1b3c.1b35 3D1b3e.1b35 1D1b3f.1b35 2D1b42.1b35 2bdD41.325 1D61.325 1D42.307 1D62.307
1D42.323 1D62.323 1D42.331 1D62.331 1D43.327.301 1D63.327.301 1D44.307 1D64.307 1D44.323 1D64.323
1D44.331 1D64.331 1D44.327 1D64.327 1D44.32d 1D64.32d 1D45.304.300 1D65.304.300 1D45.304.301
1D65.304.301 1D45.32d 1D65.32d 1D45.330 1D65.330 1D45.327.306 1D65.327.306 1D46.307 1D66.307
1D47.304 1D67.304 1D48.307 1D68.307 1D48.323 1D68.323 1D48.308 1D68.308 1D48.327 1D68.327 1D48.32e
1D68.32e 1D49.330 1D69.330 1D49.308.301 1D69.308.301 1D4b.301 1D6b.301 1D4b.323 1D6b.323 1D4b.331
1D6b.331 1D4c.323 1D6c.323 1D4c.323.304 1D6c.323.304 1D4c.331 1D6c.331 1D4c.32d 1D6c.32d 1D4d.301
1D6d.301 1D4d.307 1D6d.307 1D4d.323 1D6d.323 1D4e.307 1D6e.307 1D4e.323 1D6e.323 1D4e.331 1D6e.331
1D4e.32d 1D6e.32d 1D4f.303.301 1D6f.303.301 1D4f.303.308 1D6f.303.308 1D4f.304.300 1D6f.304.300
1D4f.304.301 1D6f.304.301 1D50.301 1D70.301 1D50.307 1D70.307 1D52.307 1D72.307 1D52.323 1D72.323
1D52.323.304 1D72.323.304 1D52.331 1D72.331 1D53.307 1D73.307 1D53.323 1D73.323 1D53.301.307
1D73.301.307 1D53.30c.307 1D73.30c.307 1D53.323.307 1D73.323.307 1D54.307 1D74.307 1D54.323
1D74.323 1D54.331 1D74.331 1D54.32d 1D74.32d 1D55.324 1D75.324 1D55.330 1D75.330 1D55.32d 1D75.32d
1D55.303.301 1D75.303.301 1D55.304.308 1D75.304.308 1D56.303 1D76.303 1D56.323 1D76.323 1D57.300
1D77.300 1D57.301 1D77.301 1D57.308 1D77.308 1D57.307 1D77.307 1D57.323 1D77.323 1D58.307 1D78.307
1D58.308 1D78.308 1D59.307 1D79.307 1D5a.302 1D7a.302 1D5a.323 1D7a.323 1D5a.331 1D7a.331 1D68.331
1D74.308 1D77.30a 1D79.30a 2D17f.307 5D41.323 1D61.323 1D41.309 1D61.309 1D41.302.301 1D61.302.301
1D41.302.300 1D61.302.300 1D41.302.309 1D61.302.309 1D41.302.303 1D61.302.303 1D41.323.302
1D61.323.302 1D41.306.301 1D61.306.301 1D41.306.300 1D61.306.300 1D41.306.309 1D61.306.309
1D41.306.303 1D61.306.303 1D41.323.306 1D61.323.306 1D45.323 1D65.323 1D45.309 1D65.309 1D45.303
1D65.303 1D45.302.301 1D65.302.301 1D45.302.300 1D65.302.300 1D45.302.309 1D65.302.309
1D45.302.303 1D65.302.303 1D45.323.302 1D65.323.302 1D49.309 1D69.309 1D49.323 1D69.323 1D4f.323
1D6f.323 1D4f.309 1D6f.309 1D4f.302.301 1D6f.302.301 1D4f.302.300 1D6f.302.300 1D4f.302.309
1D6f.302.309 1D4f.302.303 1D6f.302.303 1D4f.323.302 1D6f.323.302 1D4f.31b.301 1D6f.31b.301
1D4f.31b.300 1D6f.31b.300 1D4f.31b.309 1D6f.31b.309 1D4f.31b.303 1D6f.31b.303 1D4f.31b.323
1D6f.31b.323 1D55.323 1D75.323 1D55.309 1D75.309 1D55.31b.301 1D75.31b.301 1D55.31b.300
1D75.31b.300 1D55.31b.309 1D75.31b.309 1D55.31b.303 1D75.31b.303 1D55.31b.323 1D75.31b.323
1D59.300 1D79.300 1D59.323 1D79.323 1D59.309 1D79.309 1D59.303 1D79.303 7D3b1.313 1D3b1.314
1D3b1.313.300 1D3b1.314.300 1D3b1.313.301 1D3b1.314.301 1D3b1.313.342 1D3b1.314.342 1D391.313
1D391.314 1D391.313.300 1D391.314.300 1D391.313.301 1D391.314.301 1D391.313.342 1D391.314.342
1D3b5.313 1D3b5.314 1D3b5.313.300 1D3b5.314.300 1D3b5.313.301 1D3b5.314.301 3D395.313 1D395.314
1D395.313.300 1D395.314.300 1D395.313.301 1D395.314.301 3D3b7.313 1D3b7.314 1D3b7.313.300
1D3b7.314.300 1D3b7.313.301 1D3b7.314.301 1D3b7.313.342 1D3b7.314.342 1D397.313 1D397.314
1D397.313.300 1D397.314.300 1D397.313.301 1D397.314.301 1D397.313.342 1D397.314.342 1D3b9.313
1D3b9.314 1D3b9.313.300 1D3b9.314.300 1D3b9.313.301 1D3b9.314.301 1D3b9.313.342 1D3b9.314.342
1D399.313 1D399.314 1D399.313.300 1D399.314.300 1D399.313.301 1D399.314.301 1D399.313.342
1D399.314.342 1D3bf.313 1D3bf.314 1D3bf.313.300 1D3bf.314.300 1D3bf.313.301 1D3bf.314.301
3D39f.313 1D39f.314 1D39f.313.300 1D39f.314.300 1D39f.313.301 1D39f.314.301 3D3c5.313 1D3c5.314
1D3c5.313.300 1D3c5.314.300 1D3c5.313.301 1D3c5.314.301 1D3c5.313.342 1D3c5.314.342 2D3a5.314
2D3a5.314.300 2D3a5.314.301 2D3a5.314.342 1D3c9.313 1D3c9.314 1D3c9.313.300 1D3c9.314.300
1D3c9.313.301 1D3c9.314.301 1D3c9.313.342 1D3c9.314.342 1D3a9.313 1D3a9.314 1D3a9.313.300
1D3a9.314.300 1D3a9.313.301 1D3a9.314.301 1D3a9.313.342 1D3a9.314.342 1D3b1.300 1D3b1.301
1D3b5.300 1D3b5.301 1D3b7.300 1D3b7.301 1D3b9.300 1D3b9.301 1D3bf.300 1D3bf.301 1D3c5.300
1D3c5.301 1D3c9.300 1D3c9.301 3D3b1.313.345 1D3b1.314.345 1D3b1.313.300.345 1D3b1.314.300.345
1D3b1.313.301.345 1D3b1.314.301.345 1D3b1.313.342.345 1D3b1.314.342.345 1D391.313.345
1D391.314.345 1D391.313.300.345 1D391.314.300.345 1D391.313.301.345 1D391.314.301.345
1D391.313.342.345 1D391.314.342.345 1D3b7.313.345 1D3b7.314.345 1D3b7.313.300.345
1D3b7.314.300.345 1D3b7.313.301.345 1D3b7.314.301.345 1D3b7.313.342.345 1D3b7.314.342.345
1D397.313.345 1D397.314.345 1D397.313.300.345 1D397.314.300.345 1D397.313.301.345
1D397.314.301.345 1D397.313.342.345 1D397.314.342.345 1D3c9.313.345 1D3c9.314.345
1D3c9.313.300.345 1D3c9.314.300.345 1D3c9.313.301.345 1D3c9.314.301.345 1D3c9.313.342.345
1D3c9.314.342.345 1D3a9.313.345 1D3a9.314.345 1D3a9.313.300.345 1D3a9.314.300.345
1D3a9.313.301.345 1D3a9.314.301.345 1D3a9.313.342.345 1D3a9.314.342.345 1D3b1.306 1D3b1.304
1D3b1.300.345 1D3b1.345 1D3b1.301.345 2D3b1.342 1D3b1.342.345 1D391.306 1D391.304 1D391.300
1D391.301 1D391.345 2D3b9 3Da8.342 1D3b7.300.345 1D3b7.345 1D3b7.301.345 2D3b7.342 1D3b7.342.345
1D395.300 1D395.301 1D397.300 1D397.301 1D397.345 1D1fbf.300 1D1fbf.301 1D1fbf.342 1D3b9.306
1D3b9.304 1D3b9.308.300 1D3b9.308.301 3D3b9.342 1D3b9.308.342 1D399.306 1D399.304 1D399.300
1D399.301 2D1ffe.300 1D1ffe.301 1D1ffe.342 1D3c5.306 1D3c5.304 1D3c5.308.300 1D3c5.308.301
1D3c1.313 1D3c1.314 1D3c5.342 1D3c5.308.342 1D3a5.306 1D3a5.304 1D3a5.300 1D3a5.301 1D3a1.314
1Da8.300 1Da8.301 1D60 3D3c9.300.345 1D3c9.345 1D3c9.301.345 2D3c9.342 1D3c9.342.345 1D39f.300
1D39f.301 1D3a9.300 1D3a9.301 1D3a9.345 1Db4 3D2002 1D2003 125D3a9 4D4b 1D41.30a 6fD2190.338
1D2192.338 13D2194.338 1fD21d0.338 1D21d4.338 1D21d2.338 35D2203.338 5D2208.338 3D220b.338
18D2223.338 2D2225.338 1bD223c.338 3D2243.338 3D2245.338 2D2248.338 17D3d.338 2D2261.338
bD224d.338 1D3c.338 1D3e.338 1D2264.338 1D2265.338 3D2272.338 1D2273.338 3D2276.338 1D2277.338
7D227a.338 1D227b.338 3D2282.338 1D2283.338 3D2286.338 1D2287.338 23D22a2.338 1D22a8.338
1D22a9.338 1D22ab.338 31D227c.338 1D227d.338 1D2291.338 1D2292.338 7D22b2.338 1D22b3.338
1D22b4.338 1D22b5.338 3cD3008 1D3009 7b2D2add.338 570D304b.3099 2D304d.3099 2D304f.3099
2D3051.3099 2D3053.3099 2D3055.3099 2D3057.3099 2D3059.3099 2D305b.3099 2D305d.3099 2D305f.3099
2D3061.3099 3D3064.3099 2D3066.3099 2D3068.3099 7D306f.3099 1D306f.309a 2D3072.3099 1D3072.309a
2D3075.3099 1D3075.309a 2D3078.3099 1D3078.309a 2D307b.3099 1D307b.309a 17D3046.3099 aD309d.3099
eD30ab.3099 2D30ad.3099 2D30af.3099 2D30b1.3099 2D30b3.3099 2D30b5.3099 2D30b7.3099 2D30b9.3099
2D30bb.3099 2D30bd.3099 2D30bf.3099 2D30c1.3099 3D30c4.3099 2D30c6.3099 2D30c8.3099 7D30cf.3099
1D30cf.309a 2D30d2.3099 1D30d2.309a 2D30d5.3099 1D30d5.309a 2D30d8.3099 1D30d8.309a 2D30db.3099
1D30db.309a 17D30a6.3099 3D30ef.3099 1D30f0.3099 1D30f1.3099 1D30f2.3099 4D30fd.3099 c802D8c48
1D66f4 1D8eca 1D8cc8 1D6ed1 1D4e32 1D53e5 1D9f9c 1D9f9c 1D5951 1D91d1 1D5587 1D5948 1D61f6 1D7669
1D7f85 1D863f 1D87ba 1D88f8 1D908f 1D6a02 1D6d1b 1D70d9 1D73de 1D843d 1D916a 1D99f1 1D4e82 1D5375
1D6b04 1D721b 1D862d 1D9e1e 1D5d50 1D6feb 1D85cd 1D8964 1D62c9 1D81d8 1D881f 1D5eca 1D6717 1D6d6a
1D72fc 1D90ce 1D4f86 1D51b7 1D52de 1D64c4 1D6ad3 1D7210 1D76e7 1D8001 1D8606 1D865c 1D8def 1D9732
1D9b6f 1D9dfa 1D788c 1D797f 1D7da0 1D83c9 1D9304 1D9e7f 1D8ad6 1D58df 1D5f04 1D7c60 1D807e 1D7262
1D78ca 1D8cc2 1D96f7 1D58d8 1D5c62 1D6a13 1D6dda 1D6f0f 1D7d2f 1D7e37 1D964b 1D52d2 1D808b 1D51dc
1D51cc 1D7a1c 1D7dbe 1D83f1 1D9675 1D8b80 1D62cf 1D6a02 1D8afe 1D4e39 1D5be7 1D6012 1D7387 1D7570
1D5317 1D78fb 1D4fbf 1D5fa9 1D4e0d 1D6ccc 1D6578 1D7d22 1D53c3 1D585e 1D7701 1D8449 1D8aaa 1D6bba
1D8fb0 1D6c88 1D62fe 1D82e5 1D63a0 1D7565 1D4eae 1D5169 1D51c9 1D6881 1D7ce7 1D826f 1D8ad2 1D91cf
1D52f5 1D5442 1D5973 1D5eec 1D65c5 1D6ffe 1D792a 1D95ad 1D9a6a 1D9e97 1D9ece 1D529b 1D66c6 1D6b77
1D8f62 1D5e74 1D6190 1D6200 1D649a 1D6f23 1D7149 1D7489 1D79ca 1D7df4 1D806f 1D8f26 1D84ee 1D9023
1D934a 1D5217 1D52a3 1D54bd 1D70c8 1D88c2 1D8aaa 1D5ec9 1D5ff5 1D637b 1D6bae 1D7c3e 1D7375 1D4ee4
1D56f9 1D5be7 1D5dba 1D601c 1D73b2 1D7469 1D7f9a 1D8046 1D9234 1D96f6 1D9748 1D9818 1D4f8b 1D79ae
1D91b4 1D96b8 1D60e1 1D4e86 1D50da 1D5bee 1D5c3f 1D6599 1D6a02 1D71ce 1D7642 1D84fc 1D907c 1D9f8d
1D6688 1D962e 1D5289 1D677b 1D67f3 1D6d41 1D6e9c 1D7409 1D7559 1D786b 1D7d10 1D985e 1D516d 1D622e
1D9678 1D502b 1D5d19 1D6dea 1D8f2a 1D5f8b 1D6144 1D6817 1D7387 1D9686 1D5229 1D540f 1D5c65 1D6613
1D674e 1D68a8 1D6ce5 1D7406 1D75e2 1D7f79 1D88cf 1D88e1 1D91cc 1D96e2 1D533f 1D6eba 1D541d 1D71d0
1D7498 1D85fa 1D96a3 1D9c57 1D9e9f 1D6797 1D6dcb 1D81e8 1D7acb 1D7b20 1D7c92 1D72c0 1D7099 1D8b58
1D4ec0 1D8336 1D523a 1D5207 1D5ea6 1D62d3 1D7cd6 1D5b85 1D6d1e 1D66b4 1D8f3b 1D884c 1D964d 1D898b
1D5ed3 1D5140 1D55c0 3D585a 2D6674 3D51de 1D732a 1D76ca 1D793c 1D795e 1D7965 1D798f 1D9756 1D7cbe
1D7fbd 2D8612 2D8af8 3D9038 1D90fd 4D98ef 1D98fc 1D9928 1D9db4 1D90de 1D96b7 1D4fae 1D50e7 1D514d
1D52c9 1D52e4 1D5351 1D559d 1D5606 1D5668 1D5840 1D58a8 1D5c64 1D5c6e 1D6094 1D6168 1D618e 1D61f2
1D654f 1D65e2 1D6691 1D6885 1D6d77 1D6e1a 1D6f22 1D716e 1D722b 1D7422 1D7891 1D793e 1D7949 1D7948
1D7950 1D7956 1D795d 1D798d 1D798e 1D7a40 1D7a81 1D7bc0 1D7df4 1D7e09 1D7e41 1D7f72 1D8005 1D81ed
1D8279 1D8279 1D8457 1D8910 1D8996 1D8b01 1D8b39 1D8cd3 1D8d08 1D8fb6 1D9038 1D96e3 1D97ff 1D983b
1D6075 1D242ee 1D8218 3D4e26 1D51b5 1D5168 1D4f80 1D5145 1D5180 1D52c7 1D52fa 1D559d 1D5555 1D5599
1D55e2 1D585a 1D58b3 1D5944 1D5954 1D5a62 1D5b28 1D5ed2 1D5ed9 1D5f69 1D5fad 1D60d8 1D614e 1D6108
1D618e 1D6160 1D61f2 1D6234 1D63c4 1D641c 1D6452 1D6556 1D6674 1D6717 1D671b 1D6756 1D6b79 1D6bba
1D6d41 1D6edb 1D6ecb 1D6f22 1D701e 1D716e 1D77a7 1D7235 1D72af 1D732a 1D7471 1D7506 1D753b 1D761d
1D761f 1D76ca 1D76db 1D76f4 1D774a 1D7740 1D78cc 1D7ab1 1D7bc0 1D7c7b 1D7d5b 1D7df4 1D7f3e 1D8005
1D8352 1D83ef 1D8779 1D8941 1D8986 1D8996 1D8abf 1D8af8 1D8acb 1D8b01 1D8afe 1D8aed 1D8b39 1D8b8a
1D8d08 1D8f38 1D9072 1D9199 1D9276 1D967c 1D96e3 1D9756 1D97db 1D97ff 1D980b 1D983b 1D9b12 1D9f9c
1D2284a 1D22844 1D233d5 1D3b9d 1D4018 1D4039 1D25249 1D25cd0 1D27ed3 1D9f43 1D9f8e 44D5d9.5b4
2D5f2.5b7 bD5e9.5c1 1D5e9.5c2 1D5e9.5bc.5c1 1D5e9.5bc.5c2 1D5d0.5b7 1D5d0.5b8 1D5d0.5bc 1D5d1.5bc
1D5d2.5bc 1D5d3.5bc 1D5d4.5bc 1D5d5.5bc 1D5d6.5bc 2D5d8.5bc 1D5d9.5bc 1D5da.5bc 1D5db.5bc
1D5dc.5bc 2D5de.5bc 2D5e0.5bc 1D5e1.5bc 2D5e3.5bc 1D5e4.5bc 2D5e6.5bc 1D5e7.5bc 1D5e8.5bc
1D5e9.5bc 1D5ea.5bc 1D5d5.5b9 1D5d1.5bf 1D5db.5bf 1D5e4.5bf 154cD11099.110ba 2D1109b.110ba
fD110a5.110ba 83D11131.11127 1D11132.11127 21cD11347.1133e 1D11347.11357 16fD114b9.114ba
1D114b9.114b0 2D114b9.114bd fcD115b8.115af 1D115b9.115af 37dD11935.11930 b826D1d157.1d165
1D1d158.1d165 1D1d158.1d165.1d16e 1D1d158.1d165.1d16f 1D1d158.1d165.1d170 1D1d158.1d165.1d171
1D1d158.1d165.1d172 57D1d1b9.1d165 1D1d1ba.1d165 1D1d1b9.1d165.1d16e 1D1d1ba.1d165.1d16e
1D1d1b9.1d165.1d16f 1D1d1ba.1d165.1d16f 12640D4e3d 1D4e38 1D4e41 1D20122 1D4f60 1D4fae 1D4fbb
1D5002 1D507a 1D5099 1D50e7 1D50cf 1D349e 1D2063a 1D514d 1D5154 1D5164 1D5177 1D2051c 1D34b9
1D5167 1D518d 1D2054b 1D5197 1D51a4 1D4ecc 1D51ac 1D51b5 1D291df 1D51f5 1D5203 1D34df 1D523b
1D5246 1D5272 1D5277 1D3515 1D52c7 1D52c9 1D52e4 1D52fa 1D5305 1D5306 1D5317 1D5349 1D5351 1D535a
1D5373 1D537d 1D537f 1D537f 1D537f 1D20a2c 1D7070 1D53ca 1D53df 1D20b63 1D53eb 1D53f1 1D5406
1D549e 1D5438 1D5448 1D5468 1D54a2 1D54f6 1D5510 1D5553 1D5563 1D5584 1D5584 1D5599 1D55ab 1D55b3
1D55c2 1D5716 1D5606 1D5717 1D5651 1D5674 1D5207 1D58ee 1D57ce 1D57f4 1D580d 1D578b 1D5832 1D5831
1D58ac 1D214e4 1D58f2 1D58f7 1D5906 1D591a 1D5922 1D5962 1D216a8 1D216ea 1D59ec 1D5a1b 1D5a27
1D59d8 1D5a66 1D36ee 1D36fc 1D5b08 1D5b3e 1D5b3e 1D219c8 1D5bc3 1D5bd8 1D5be7 1D5bf3 1D21b18
1D5bff 1D5c06 1D5f53 1D5c22 1D3781 1D5c60 1D5c6e 1D5cc0 1D5c8d 1D21de4 1D5d43 1D21de6 1D5d6e
1D5d6b 1D5d7c 1D5de1 1D5de2 1D382f 1D5dfd 1D5e28 1D5e3d 1D5e69 1D3862 1D22183 1D387c 1D5eb0 1D5eb3
1D5eb6 1D5eca 1D2a392 1D5efe 1D22331 1D22331 1D8201 1D5f22 1D5f22 1D38c7 1D232b8 1D261da 1D5f62
1D5f6b 1D38e3 1D5f9a 1D5fcd 1D5fd7 1D5ff9 1D6081 1D393a 1D391c 1D6094 1D226d4 1D60c7 1D6148 1D614c
1D614e 1D614c 1D617a 1D618e 1D61b2 1D61a4 1D61af 1D61de 1D61f2 1D61f6 1D6210 1D621b 1D625d 1D62b1
1D62d4 1D6350 1D22b0c 1D633d 1D62fc 1D6368 1D6383 1D63e4 1D22bf1 1D6422 1D63c5 1D63a9 1D3a2e
1D6469 1D647e 1D649d 1D6477 1D3a6c 1D654f 1D656c 1D2300a 1D65e3 1D66f8 1D6649 1D3b19 1D6691 1D3b08
1D3ae4 1D5192 1D5195 1D6700 1D669c 1D80ad 1D43d9 1D6717 1D671b 1D6721 1D675e 1D6753 1D233c3 1D3b49
1D67fa 1D6785 1D6852 1D6885 1D2346d 1D688e 1D681f 1D6914 1D3b9d 1D6942 1D69a3 1D69ea 1D6aa8
1D236a3 1D6adb 1D3c18 1D6b21 1D238a7 1D6b54 1D3c4e 1D6b72 1D6b9f 1D6bba 1D6bbb 1D23a8d 1D21d0b
1D23afa 1D6c4e 1D23cbc 1D6cbf 1D6ccd 1D6c67 1D6d16 1D6d3e 1D6d77 1D6d41 1D6d69 1D6d78 1D6d85
1D23d1e 1D6d34 1D6e2f 1D6e6e 1D3d33 1D6ecb 1D6ec7 1D23ed1 1D6df9 1D6f6e 1D23f5e 1D23f8e 1D6fc6
1D7039 1D701e 1D701b 1D3d96 1D704a 1D707d 1D7077 1D70ad 1D20525 1D7145 1D24263 1D719c 1D243ab
1D7228 1D7235 1D7250 1D24608 1D7280 1D7295 1D24735 1D24814 1D737a 1D738b 1D3eac 1D73a5 1D3eb8
1D3eb8 1D7447 1D745c 1D7471 1D7485 1D74ca 1D3f1b 1D7524 1D24c36 1D753e 1D24c92 1D7570 1D2219f
1D7610 1D24fa1 1D24fb8 1D25044 1D3ffc 1D4008 1D76f4 1D250f3 1D250f2 1D25119 1D25133 1D771e 1D771f
1D771f 1D774a 1D4039 1D778b 1D4046 1D4096 1D2541d 1D784e 1D788c 1D78cc 1D40e3 1D25626 1D7956
1D2569a 1D256c5 1D798f 1D79eb 1D412f 1D7a40 1D7a4a 1D7a4f 1D2597c 1D25aa7 1D25aa7 1D7aee 1D4202
1D25bab 1D7bc6 1D7bc9 1D4227 1D25c80 1D7cd2 1D42a0 1D7ce8 1D7ce3 1D7d00 1D25f86 1D7d63 1D4301
1D7dc7 1D7e02 1D7e45 1D4334 1D26228 1D26247 1D4359 1D262d9 1D7f7a 1D2633e 1D7f95 1D7ffa 1D8005
1D264da 1D26523 1D8060 1D265a8 1D8070 1D2335f 1D43d5 1D80b2 1D8103 1D440b 1D813e 1D5ab5 1D267a7
1D267b5 1D23393 1D2339c 1D8201 1D8204 1D8f9e 1D446b 1D8291 1D828b 1D829d 1D52b3 1D82b1 1D82b3
1D82bd 1D82e6 1D26b3c 1D82e5 1D831d 1D8363 1D83ad 1D8323 1D83bd 1D83e7 1D8457 1D8353 1D83ca 1D83cc
1D83dc 1D26c36 1D26d6b 1D26cd5 1D452b 1D84f1 1D84f3 1D8516 1D273ca 1D8564 1D26f2c 1D455d 1D4561
1D26fb1 1D270d2 1D456b 1D8650 1D865c 1D8667 1D8669 1D86a9 1D8688 1D870e 1D86e2 1D8779 1D8728
1D876b 1D8786 1D45d7 1D87e1 1D8801 1D45f9 1D8860 1D8863 1D27667 1D88d7 1D88de 1D4635 1D88fa 1D34bb
1D278ae 1D27966 1D46be 1D46c7 1D8aa0 1D8aed 1D8b8a 1D8c55 1D27ca8 1D8cab 1D8cc1 1D8d1b 1D8d77
1D27f2f 1D20804 1D8dcb 1D8dbc 1D8df0 1D208de 1D8ed4 1D8f38 1D285d2 1D285ed 1D9094 1D90f1 1D9111
1D2872e 1D911b 1D9238 1D92d7 1D92d8 1D927c 1D93f9 1D9415 1D28bfa 1D958b 1D4995 1D95b7 1D28d77
1D49e6 1D96c3 1D5db2 1D9723 1D29145 1D2921a 1D4a6e 1D4a76 1D97e0 1D2940a 1D4ab2 1D29496 1D980b
1D980b 1D9829 1D295b6 1D98e2 1D4b33 1D9929 1D99a7 1D99c2 1D99fe 1D4bce 1D29b30 1D9b12 1D9c40
1D9cfd 1D4cce 1D4ced 1D9d67 1D2a0ce 1D4cf8 1D2a105 1D2a20e 1D2a291 1D9ebb 1D4d56 1D9ef9 1D9efe
1D9f05 1D9f0f 1D9f16 1D9f3b 1D2a600"

/-- The two characters that each composed character is made of. -/
def pairs : Runs := .ofText
  "c0P41.300 1P41.301 1P41.302 1P41.303 1P41.308 1P41.30a 2P43.327 1P45.300 1P45.301 1P45.302
1P45.308 1P49.300 1P49.301 1P49.302 1P49.308 2P4e.303 1P4f.300 1P4f.301 1P4f.302 1P4f.303 1P4f.308
3P55.300 1P55.301 1P55.302 1P55.308 1P59.301 3P61.300 1P61.301 1P61.302 1P61.303 1P61.308 1P61.30a
2P63.327 1P65.300 1P65.301 1P65.302 1P65.308 1P69.300 1P69.301 1P69.302 1P69.308 2P6e.303 1P6f.300
1P6f.301 1P6f.302 1P6f.303 1P6f.308 3P75.300 1P75.301 1P75.302 1P75.308 1P79.301 2P79.308 1P41.304
1P61.304 1P41.306 1P61.306 1P41.328 1P61.328 1P43.301 1P63.301 1P43.302 1P63.302 1P43.307 1P63.307
1P43.30c 1P63.30c 1P44.30c 1P64.30c 3P45.304 1P65.304 1P45.306 1P65.306 1P45.307 1P65.307 1P45.328
1P65.328 1P45.30c 1P65.30c 1P47.302 1P67.302 1P47.306 1P67.306 1P47.307 1P67.307 1P47.327 1P67.327
1P48.302 1P68.302 3P49.303 1P69.303 1P49.304 1P69.304 1P49.306 1P69.306 1P49.328 1P69.328 1P49.307
4P4a.302 1P6a.302 1P4b.327 1P6b.327 2P4c.301 1P6c.301 1P4c.327 1P6c.327 1P4c.30c 1P6c.30c 5P4e.301
1P6e.301 1P4e.327 1P6e.327 1P4e.30c 1P6e.30c 4P4f.304 1P6f.304 1P4f.306 1P6f.306 1P4f.30b 1P6f.30b
3P52.301 1P72.301 1P52.327 1P72.327 1P52.30c 1P72.30c 1P53.301 1P73.301 1P53.302 1P73.302 1P53.327
1P73.327 1P53.30c 1P73.30c 1P54.327 1P74.327 1P54.30c 1P74.30c 3P55.303 1P75.303 1P55.304 1P75.304
1P55.306 1P75.306 1P55.30a 1P75.30a 1P55.30b 1P75.30b 1P55.328 1P75.328 1P57.302 1P77.302 1P59.302
1P79.302 1P59.308 1P5a.301 1P7a.301 1P5a.307 1P7a.307 1P5a.30c 1P7a.30c 22P4f.31b 1P6f.31b
eP55.31b 1P75.31b 1dP41.30c 1P61.30c 1P49.30c 1P69.30c 1P4f.30c 1P6f.30c 1P55.30c 1P75.30c
1Pdc.304 1Pfc.304 1Pdc.301 1Pfc.301 1Pdc.30c 1Pfc.30c 1Pdc.300 1Pfc.300 2Pc4.304 1Pe4.304
1P226.304 1P227.304 1Pc6.304 1Pe6.304 3P47.30c 1P67.30c 1P4b.30c 1P6b.30c 1P4f.328 1P6f.328
1P1ea.304 1P1eb.304 1P1b7.30c 1P292.30c 1P6a.30c 4P47.301 1P67.301 3P4e.300 1P6e.300 1Pc5.301
1Pe5.301 1Pc6.301 1Pe6.301 1Pd8.301 1Pf8.301 1P41.30f 1P61.30f 1P41.311 1P61.311 1P45.30f 1P65.30f
1P45.311 1P65.311 1P49.30f 1P69.30f 1P49.311 1P69.311 1P4f.30f 1P6f.30f 1P4f.311 1P6f.311 1P52.30f
1P72.30f 1P52.311 1P72.311 1P55.30f 1P75.30f 1P55.311 1P75.311 1P53.326 1P73.326 1P54.326 1P74.326
3P48.30c 1P68.30c 7P41.307 1P61.307 1P45.327 1P65.327 1Pd6.304 1Pf6.304 1Pd5.304 1Pf5.304 1P4f.307
1P6f.307 1P22e.304 1P22f.304 1P59.304 1P79.304 152Pa8.301 1P391.301 2P395.301 1P397.301 1P399.301
2P39f.301 2P3a5.301 1P3a9.301 1P3ca.301 1aP399.308 1P3a5.308 1P3b1.301 1P3b5.301 1P3b7.301
1P3b9.301 1P3cb.301 1aP3b9.308 1P3c5.308 1P3bf.301 1P3c5.301 1P3c9.301 5P3d2.301 1P3d2.308
2cP415.300 1P415.308 2P413.301 4P406.308 5P41a.301 1P418.300 1P423.306 bP418.306 20P438.306
17P435.300 1P435.308 2P433.301 4P456.308 5P43a.301 1P438.300 1P443.306 18P474.30f 1P475.30f
4aP416.306 1P436.306 eP410.306 1P430.306 1P410.308 1P430.308 3P415.306 1P435.306 3P4d8.308
1P4d9.308 1P416.308 1P436.308 1P417.308 1P437.308 3P418.304 1P438.304 1P418.308 1P438.308
1P41e.308 1P43e.308 3P4e8.308 1P4e9.308 1P42d.308 1P44d.308 1P423.304 1P443.304 1P423.308
1P443.308 1P423.30b 1P443.30b 1P427.308 1P447.308 3P42b.308 1P44b.308 129P627.653 1P627.654
1P648.654 1P627.655 1P64a.654 9aP6d5.654 2P6c1.654 11P6d2.654 256P928.93c 8P930.93c 3P933.93c
97P9c7.9be 1P9c7.9d7 17cPb47.b56 3Pb47.b3e 1Pb47.b57 48Pb92.bd7 36Pbc6.bbe 1Pbc7.bbe 1Pbc6.bd7
7cPc46.c56 78Pcbf.cd5 7Pcc6.cd5 1Pcc6.cd6 2Pcc6.cc2 1Pcca.cd5 7fPd46.d3e 1Pd47.d3e 1Pd46.d57
8ePdd9.dca 2Pdd9.dcf 1Pddc.dca 1Pdd9.ddf 248P1025.102e ae0P1b05.1b35 2P1b07.1b35 2P1b09.1b35
2P1b0b.1b35 2P1b0d.1b35 4P1b11.1b35 29P1b3a.1b35 2P1b3c.1b35 3P1b3e.1b35 1P1b3f.1b35 2P1b42.1b35
2bdP41.325 1P61.325 1P42.307 1P62.307 1P42.323 1P62.323 1P42.331 1P62.331 1Pc7.301 1Pe7.301
1P44.307 1P64.307 1P44.323 1P64.323 1P44.331 1P64.331 1P44.327 1P64.327 1P44.32d 1P64.32d
1P112.300 1P113.300 1P112.301 1P113.301 1P45.32d 1P65.32d 1P45.330 1P65.330 1P228.306 1P229.306
1P46.307 1P66.307 1P47.304 1P67.304 1P48.307 1P68.307 1P48.323 1P68.323 1P48.308 1P68.308 1P48.327
1P68.327 1P48.32e 1P68.32e 1P49.330 1P69.330 1Pcf.301 1Pef.301 1P4b.301 1P6b.301 1P4b.323 1P6b.323
1P4b.331 1P6b.331 1P4c.323 1P6c.323 1P1e36.304 1P1e37.304 1P4c.331 1P6c.331 1P4c.32d 1P6c.32d
1P4d.301 1P6d.301 1P4d.307 1P6d.307 1P4d.323 1P6d.323 1P4e.307 1P6e.307 1P4e.323 1P6e.323 1P4e.331
1P6e.331 1P4e.32d 1P6e.32d 1Pd5.301 1Pf5.301 1Pd5.308 1Pf5.308 1P14c.300 1P14d.300 1P14c.301
1P14d.301 1P50.301 1P70.301 1P50.307 1P70.307 1P52.307 1P72.307 1P52.323 1P72.323 1P1e5a.304
1P1e5b.304 1P52.331 1P72.331 1P53.307 1P73.307 1P53.323 1P73.323 1P15a.307 1P15b.307 1P160.307
1P161.307 1P1e62.307 1P1e63.307 1P54.307 1P74.307 1P54.323 1P74.323 1P54.331 1P74.331 1P54.32d
1P74.32d 1P55.324 1P75.324 1P55.330 1P75.330 1P55.32d 1P75.32d 1P168.301 1P169.301 1P16a.308
1P16b.308 1P56.303 1P76.303 1P56.323 1P76.323 1P57.300 1P77.300 1P57.301 1P77.301 1P57.308
1P77.308 1P57.307 1P77.307 1P57.323 1P77.323 1P58.307 1P78.307 1P58.308 1P78.308 1P59.307 1P79.307
1P5a.302 1P7a.302 1P5a.323 1P7a.323 1P5a.331 1P7a.331 1P68.331 1P74.308 1P77.30a 1P79.30a
2P17f.307 5P41.323 1P61.323 1P41.309 1P61.309 1Pc2.301 1Pe2.301 1Pc2.300 1Pe2.300 1Pc2.309
1Pe2.309 1Pc2.303 1Pe2.303 1P1ea0.302 1P1ea1.302 1P102.301 1P103.301 1P102.300 1P103.300 1P102.309
1P103.309 1P102.303 1P103.303 1P1ea0.306 1P1ea1.306 1P45.323 1P65.323 1P45.309 1P65.309 1P45.303
1P65.303 1Pca.301 1Pea.301 1Pca.300 1Pea.300 1Pca.309 1Pea.309 1Pca.303 1Pea.303 1P1eb8.302
1P1eb9.302 1P49.309 1P69.309 1P49.323 1P69.323 1P4f.323 1P6f.323 1P4f.309 1P6f.309 1Pd4.301
1Pf4.301 1Pd4.300 1Pf4.300 1Pd4.309 1Pf4.309 1Pd4.303 1Pf4.303 1P1ecc.302 1P1ecd.302 1P1a0.301
1P1a1.301 1P1a0.300 1P1a1.300 1P1a0.309 1P1a1.309 1P1a0.303 1P1a1.303 1P1a0.323 1P1a1.323 1P55.323
1P75.323 1P55.309 1P75.309 1P1af.301 1P1b0.301 1P1af.300 1P1b0.300 1P1af.309 1P1b0.309 1P1af.303
1P1b0.303 1P1af.323 1P1b0.323 1P59.300 1P79.300 1P59.323 1P79.323 1P59.309 1P79.309 1P59.303
1P79.303 7P3b1.313 1P3b1.314 1P1f00.300 1P1f01.300 1P1f00.301 1P1f01.301 1P1f00.342 1P1f01.342
1P391.313 1P391.314 1P1f08.300 1P1f09.300 1P1f08.301 1P1f09.301 1P1f08.342 1P1f09.342 1P3b5.313
1P3b5.314 1P1f10.300 1P1f11.300 1P1f10.301 1P1f11.301 3P395.313 1P395.314 1P1f18.300 1P1f19.300
1P1f18.301 1P1f19.301 3P3b7.313 1P3b7.314 1P1f20.300 1P1f21.300 1P1f20.301 1P1f21.301 1P1f20.342
1P1f21.342 1P397.313 1P397.314 1P1f28.300 1P1f29.300 1P1f28.301 1P1f29.301 1P1f28.342 1P1f29.342
1P3b9.313 1P3b9.314 1P1f30.300 1P1f31.300 1P1f30.301 1P1f31.301 1P1f30.342 1P1f31.342 1P399.313
1P399.314 1P1f38.300 1P1f39.300 1P1f38.301 1P1f39.301 1P1f38.342 1P1f39.342 1P3bf.313 1P3bf.314
1P1f40.300 1P1f41.300 1P1f40.301 1P1f41.301 3P39f.313 1P39f.314 1P1f48.300 1P1f49.300 1P1f48.301
1P1f49.301 3P3c5.313 1P3c5.314 1P1f50.300 1P1f51.300 1P1f50.301 1P1f51.301 1P1f50.342 1P1f51.342
2P3a5.314 2P1f59.300 2P1f59.301 2P1f59.342 1P3c9.313 1P3c9.314 1P1f60.300 1P1f61.300 1P1f60.301
1P1f61.301 1P1f60.342 1P1f61.342 1P3a9.313 1P3a9.314 1P1f68.300 1P1f69.300 1P1f68.301 1P1f69.301
1P1f68.342 1P1f69.342 1P3b1.300 2P3b5.300 2P3b7.300 2P3b9.300 2P3bf.300 2P3c5.300 2P3c9.300
4P1f00.345 1P1f01.345 1P1f02.345 1P1f03.345 1P1f04.345 1P1f05.345 1P1f06.345 1P1f07.345 1P1f08.345
1P1f09.345 1P1f0a.345 1P1f0b.345 1P1f0c.345 1P1f0d.345 1P1f0e.345 1P1f0f.345 1P1f20.345 1P1f21.345
1P1f22.345 1P1f23.345 1P1f24.345 1P1f25.345 1P1f26.345 1P1f27.345 1P1f28.345 1P1f29.345 1P1f2a.345
1P1f2b.345 1P1f2c.345 1P1f2d.345 1P1f2e.345 1P1f2f.345 1P1f60.345 1P1f61.345 1P1f62.345 1P1f63.345
1P1f64.345 1P1f65.345 1P1f66.345 1P1f67.345 1P1f68.345 1P1f69.345 1P1f6a.345 1P1f6b.345 1P1f6c.345
1P1f6d.345 1P1f6e.345 1P1f6f.345 1P3b1.306 1P3b1.304 1P1f70.345 1P3b1.345 1P3ac.345 2P3b1.342
1P1fb6.345 1P391.306 1P391.304 1P391.300 2P391.345 5Pa8.342 1P1f74.345 1P3b7.345 1P3ae.345
2P3b7.342 1P1fc6.345 1P395.300 2P397.300 2P397.345 1P1fbf.300 1P1fbf.301 1P1fbf.342 1P3b9.306
1P3b9.304 1P3ca.300 4P3b9.342 1P3ca.342 1P399.306 1P399.304 1P399.300 3P1ffe.300 1P1ffe.301
1P1ffe.342 1P3c5.306 1P3c5.304 1P3cb.300 2P3c1.313 1P3c1.314 1P3c5.342 1P3cb.342 1P3a5.306
1P3a5.304 1P3a5.300 2P3a1.314 1Pa8.300 5P1f7c.345 1P3c9.345 1P3ce.345 2P3c9.342 1P1ff6.345
1P39f.300 2P3a9.300 2P3a9.345 19eP2190.338 1P2192.338 13P2194.338 1fP21d0.338 1P21d4.338
1P21d2.338 35P2203.338 5P2208.338 3P220b.338 18P2223.338 2P2225.338 1bP223c.338 3P2243.338
3P2245.338 2P2248.338 17P3d.338 2P2261.338 bP224d.338 1P3c.338 1P3e.338 1P2264.338 1P2265.338
3P2272.338 1P2273.338 3P2276.338 1P2277.338 7P227a.338 1P227b.338 3P2282.338 1P2283.338 3P2286.338
1P2287.338 23P22a2.338 1P22a8.338 1P22a9.338 1P22ab.338 31P227c.338 1P227d.338 1P2291.338
1P2292.338 7P22b2.338 1P22b3.338 1P22b4.338 1P22b5.338 d5fP304b.3099 2P304d.3099 2P304f.3099
2P3051.3099 2P3053.3099 2P3055.3099 2P3057.3099 2P3059.3099 2P305b.3099 2P305d.3099 2P305f.3099
2P3061.3099 3P3064.3099 2P3066.3099 2P3068.3099 7P306f.3099 1P306f.309a 2P3072.3099 1P3072.309a
2P3075.3099 1P3075.309a 2P3078.3099 1P3078.309a 2P307b.3099 1P307b.309a 17P3046.3099 aP309d.3099
eP30ab.3099 2P30ad.3099 2P30af.3099 2P30b1.3099 2P30b3.3099 2P30b5.3099 2P30b7.3099 2P30b9.3099
2P30bb.3099 2P30bd.3099 2P30bf.3099 2P30c1.3099 3P30c4.3099 2P30c6.3099 2P30c8.3099 7P30cf.3099
1P30cf.309a 2P30d2.3099 1P30d2.309a 2P30d5.3099 1P30d5.309a 2P30d8.3099 1P30d8.309a 2P30db.3099
1P30db.309a 17P30a6.3099 3P30ef.3099 1P30f0.3099 1P30f1.3099 1P30f2.3099 4P30fd.3099
df9cP11099.110ba 2P1109b.110ba fP110a5.110ba 83P11131.11127 1P11132.11127 21cP11347.1133e
1P11347.11357 16fP114b9.114ba 1P114b9.114b0 2P114b9.114bd fcP115b8.115af 1P115b9.115af
37dP11935.11930"

/-- The class of a mark: marks of different classes do not depend on each other's order. -/
def classes : Runs := .ofText
  "0C0 300C230 15C232 1C220 4C232 1C216 1C220 5C202 2C220 4C202 2C220 bC1 5C220 4C230 8C240 1C230
1C220 3C230 3C220 2C0 1C230 3C220 4C230 1C232 1C220 2C230 1C233 1C234 2C233 1C234 2C233 1C230 dC0
113C230 5C0 109C220 1C230 4C220 1C230 3C222 1C220 1C230 6C220 6C230 2C220 1C230 2C222 1C228 1C230
1C10 1C11 1C12 1C13 1C14 1C15 1C16 1C17 1C18 1C19 2C20 1C21 1C22 1C0 1C23 1C0 1C24 1C25 1C0 1C230
1C220 1C0 1C18 1C0 48C230 8C30 1C31 1C32 1C0 30C27 1C28 1C29 1C30 1C31 1C32 1C33 1C34 1C230 2C220
2C230 5C220 1C230 2C220 1C0 10C35 1C0 65C230 7C0 2C230 4C220 1C230 1C0 2C230 2C0 1C220 1C230 2C220
1C0 23C36 1C0 1eC230 1C220 1C230 2C220 1C230 2C220 3C230 1C220 2C230 1C220 1C230 3C220 1C230 1C220
1C230 1C220 1C230 1C220 1C230 2C0 a0C230 7C220 1C230 1C0 9C220 1C0 18C230 4C0 1C230 9C0 1C230 3C0
1C230 5C0 2bC220 3C0 3cC230 1C220 3C230 4C0 2aC230 5C220 5C230 eC0 1C220 1C230 2C220 1C230 2C220
1C230 3C220 3C27 1C28 1C29 1C230 3C220 1C230 2C220 2C230 5C0 3cC7 1C0 10C9 1C0 3C230 1C220 1C230
2C0 67C7 1C0 10C9 1C0 30C230 1C0 3dC7 1C0 10C9 1C0 6eC7 1C0 10C9 1C0 6eC7 1C0 10C9 1C0 7fC9 1C0
6eC7 1C0 10C9 1C0 7C84 1C91 1C0 65C7 1C0 10C9 1C0 6dC9 2C0 10C9 1C0 7cC9 1C0 6dC103 2C9 1C0 dC107
4C0 6cC118 2C9 1C0 dC122 4C0 4cC220 2C0 1bC220 1C0 1C220 1C0 1C216 1C0 37C129 1C130 1C0 1C132 1C0
5C130 4C0 2C130 1C0 1C230 2C9 1C0 1C230 2C0 3eC220 1C0 70C7 1C0 1C9 2C0 52C220 1C0 2cfC230 3C0
3b4C9 2C0 1eC9 1C0 9dC9 1C0 aC230 1C0 cbC228 1C0 8fC222 1C230 1C220 1C0 dbC230 1C220 1C0 47C9 1C0
14C230 8C0 2C220 1C0 30C230 5C220 6C230 2C220 1C0 1C220 2C230 2C220 2C230 5C220 1C230 4C0 65C7 1C0
fC9 1C0 26C230 1C220 1C230 7C0 36C9 2C0 3aC7 1C0 bC9 2C0 43C7 1C0 98C230 3C0 1C1 1C220 5C230 2C220
4C230 1C0 1C1 7C0 4C220 1C0 6C230 1C0 3C230 2C0 c6C230 2C220 1C230 7C220 1C230 2C234 1C214 1C220
1C202 1C230 25C232 1C228 2C220 1C218 1C230 1C233 1C220 1C230 1C220 1C0 2d0C230 2C1 2C230 4C1 3C230
2C0 4C230 1C0 3C1 2C230 1C220 1C230 1C1 2C220 4C230 1C0 bfeC230 3C0 8dC9 1C0 60C230 20C0 22aC218
1C228 1C232 1C222 1C224 2C0 69C8 2C0 75d4C230 1C0 4C230 aC0 20C230 2C0 50C230 2C0 114C9 1C0 25C9
1C0 97C9 1C0 1bC230 12C0 39C220 3C0 25C9 1C0 5fC7 1C0 cC9 1C0 efC230 1C0 1C230 2C220 1C0 2C230 2C0
5C230 2C0 1C230 1C0 34C9 1C0 f6C9 1C0 4f30C26 1C0 301C230 7C220 7C230 2C0 3cdC220 1C0 e2C220 1C0
95C230 5C0 692C220 1C0 1C230 1C0 28C230 1C1 1C220 1C0 4C9 1C0 a5C230 1C220 1C0 23dC230 4C0 183C230
2C0 99C220 2C230 3C220 1C230 1C220 4C0 31C230 1C220 1C230 1C220 1C0 c0C9 1C0 29C9 1C0 eC9 1C0 39C9
1C7 1C0 45C230 3C0 30C9 2C0 3eC7 1C0 4cC9 1C0 9C7 1C0 6aC9 1C7 1C0 b2C7 1C9 1C0 50C7 2C0 10C9 1C0
18C230 7C0 3C230 5C0 cdC9 1C0 3C7 1C0 17C230 1C0 63C9 1C7 1C0 fbC9 1C7 1C0 7eC9 1C0 76C9 1C7 1C0
73C9 1C0 10dC9 1C7 1C0 102C9 2C0 4C7 1C0 9cC9 1C0 53C9 1C0 12C9 1C0 51C9 1C0 1a5C9 1C0 102C7 1C0
1C9 2C0 51C9 1C0 4d58C1 5C0 3bC230 7C0 4b9C6 2C0 4cacC1 1C0 14c6C216 2C1 3C0 3C226 1C216 5C0 8C220
8C0 2C230 5C220 2C0 1eC230 4C0 94C230 3C0 dbbC230 7C0 1C230 11C0 2C230 7C0 1C230 2C0 1C230 5C0
105C230 7C0 177C230 1C0 3dC230 4C0 5e0C220 7C0 6dC230 6C7 1C0"

/-- The class of a character; one that is no mark has class 0. -/
def markClass (c : Char) : Nat :=
  match (classes.value c.toNat).toList with
  | _ :: digits => Nat.ofDigitChars 10 digits 0
  | [] => 0

def hangulLetters? (c : Char) : Option (List Char) :=
  let n := c.toNat
  if 0xAC00 ≤ n ∧ n < 0xAC00 + 11172 then
    let i := n - 0xAC00
    let leading := Char.ofNat (0x1100 + i / 588)
    let vowel := Char.ofNat (0x1161 + i % 588 / 28)
    let trailing := Char.ofNat (0x11A7 + i % 28)
    some (if i % 28 = 0 then [leading, vowel] else [leading, vowel, trailing])
  else none

/-- The characters that a character is made of. -/
def decompose (c : Char) : List Char :=
  match hangulLetters? c with
  | some letters => letters
  | none =>
    match decompositions.startingAt? c.toNat with
    | some codes => Runs.chars (codes.toList.drop 1)
    | none => [c]

/-- The composed character of each pair. -/
def composed : Std.TreeMap Nat Char :=
  pairs.entries.foldl (fun map (code, value) =>
    match Runs.chars (value.toList.drop 1) with
    | [a, b] => map.insert (a.toNat * 0x110000 + b.toNat) (Char.ofNat code)
    | _ => map) {}

/-- The syllable of two letters, or of a syllable without a last letter and one. -/
def syllable? (a b : Char) : Option Char :=
  let (m, n) := (a.toNat, b.toNat)
  if 0x1100 ≤ m ∧ m < 0x1113 ∧ 0x1161 ≤ n ∧ n < 0x1176 then
    some (Char.ofNat (0xAC00 + ((m - 0x1100) * 21 + (n - 0x1161)) * 28))
  else if 0xAC00 ≤ m ∧ m < 0xAC00 + 11172 ∧ (m - 0xAC00) % 28 = 0 ∧ 0x11A7 < n ∧ n < 0x11C3 then
    some (Char.ofNat (m + (n - 0x11A7)))
  else none

def pair? (a b : Char) : Option Char :=
  (syllable? a b).or (composed.get? (a.toNat * 0x110000 + b.toNat))

/-- A text, last character first, to which a character is added in the order of the marks. -/
def order (c : Char) : List Char → List Char
  | [] => [c]
  | last :: before =>
    if markClass c ≠ 0 ∧ markClass c < markClass last then last :: order c before
    else c :: last :: before

/-- What has been composed so far. -/
structure State where
  /-- What is complete, last character first. -/
  done : List Char
  /-- The last character that is no mark. -/
  starter : Option Char
  /-- The marks after it that did not compose, last one first. -/
  marks : List Char

namespace State

/-- All characters, last one first. -/
def all (s : State) : List Char := s.marks ++ s.starter.toList ++ s.done

/-- One more character. It composes unless a mark of the same or a later class stands between. -/
def add (s : State) (c : Char) : State :=
  let free :=
    match s.marks with
    | [] => true
    | last :: _ => markClass last < markClass c
  match s.starter.bind (pair? · c), free with
  | some composed, true => { s with starter := some composed }
  | _, _ =>
    if markClass c = 0 then { done := s.all, starter := some c, marks := [] }
    else { s with marks := c :: s.marks }

end State

def compose (text : List Char) : List Char :=
  let ordered := ((text.flatMap decompose).foldl (fun done c => order c done) []).reverse
  (ordered.foldl State.add { done := [], starter := none, marks := [] }).all.reverse

end Composition

end TransitFeed.Unicode
