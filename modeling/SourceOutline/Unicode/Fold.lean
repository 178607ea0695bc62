/-! Simple case folding of Unicode. -/
namespace SourceOutline.Unicode

/-- Runs of code points that fold to others, four hexadecimal numbers each: the first code point, what
it folds to, the length of the run, and its stride on both sides. -/
def foldRuns : String :=
  "41 61 1a 1 b5 3bc 1 1 c0 e0 17 1 d8 f8 7 1 100 101 18 2 132 133 3 2 139 13a 8 2 14a 14b 17
   2 178 ff 1 1 179 17a 3 2 17f 73 1 1 181 253 1 1 182 183 2 2 186 254 1 1 187 188 1 1 189
   256 2 1 18b 18c 1 1 18e 1dd 1 1 18f 259 1 1 190 25b 1 1 191 192 1 1 193 260 1 1 194 263 1
   1 196 269 1 1 197 268 1 1 198 199 1 1 19c 26f 1 1 19d 272 1 1 19f 275 1 1 1a0 1a1 3 2 1a6
   280 1 1 1a7 1a8 1 1 1a9 283 1 1 1ac 1ad 1 1 1ae 288 1 1 1af 1b0 1 1 1b1 28a 2 1 1b3 1b4 2
   2 1b7 292 1 1 1b8 1b9 1 1 1bc 1bd 1 1 1c4 1c6 1 1 1c5 1c6 1 1 1c7 1c9 1 1 1c8 1c9 1 1 1ca
   1cc 1 1 1cb 1cc 9 2 1de 1df 9 2 1f1 1f3 1 1 1f2 1f3 2 2 1f6 195 1 1 1f7 1bf 1 1 1f8 1f9 14
   2 220 19e 1 1 222 223 9 2 23a 2c65 1 1 23b 23c 1 1 23d 19a 1 1 23e 2c66 1 1 241 242 1 1
   243 180 1 1 244 289 1 1 245 28c 1 1 246 247 5 2 345 3b9 1 1 370 371 2 2 376 377 1 1 37f
   3f3 1 1 386 3ac 1 1 388 3ad 3 1 38c 3cc 1 1 38e 3cd 2 1 391 3b1 11 1 3a3 3c3 9 1 3c2 3c3 1
   1 3cf 3d7 1 1 3d0 3b2 1 1 3d1 3b8 1 1 3d5 3c6 1 1 3d6 3c0 1 1 3d8 3d9 c 2 3f0 3ba 1 1 3f1
   3c1 1 1 3f4 3b8 1 1 3f5 3b5 1 1 3f7 3f8 1 1 3f9 3f2 1 1 3fa 3fb 1 1 3fd 37b 3 1 400 450 10
   1 410 430 20 1 460 461 11 2 48a 48b 1b 2 4c0 4cf 1 1 4c1 4c2 7 2 4d0 4d1 30 2 531 561 26 1
   10a0 2d00 26 1 10c7 2d27 1 1 10cd 2d2d 1 1 13f8 13f0 6 1 1c80 432 1 1 1c81 434 1 1 1c82
   43e 1 1 1c83 441 2 1 1c85 442 1 1 1c86 44a 1 1 1c87 463 1 1 1c88 a64b 1 1 1c90 10d0 2b 1
   1cbd 10fd 3 1 1e00 1e01 4b 2 1e9b 1e61 1 1 1e9e df 1 1 1ea0 1ea1 30 2 1f08 1f00 8 1 1f18
   1f10 6 1 1f28 1f20 8 1 1f38 1f30 8 1 1f48 1f40 6 1 1f59 1f51 4 2 1f68 1f60 8 1 1f88 1f80 8
   1 1f98 1f90 8 1 1fa8 1fa0 8 1 1fb8 1fb0 2 1 1fba 1f70 2 1 1fbc 1fb3 1 1 1fbe 3b9 1 1 1fc8
   1f72 4 1 1fcc 1fc3 1 1 1fd8 1fd0 2 1 1fda 1f76 2 1 1fe8 1fe0 2 1 1fea 1f7a 2 1 1fec 1fe5 1
   1 1ff8 1f78 2 1 1ffa 1f7c 2 1 1ffc 1ff3 1 1 2126 3c9 1 1 212a 6b 1 1 212b e5 1 1 2132 214e
   1 1 2160 2170 10 1 2183 2184 1 1 24b6 24d0 1a 1 2c00 2c30 30 1 2c60 2c61 1 1 2c62 26b 1 1
   2c63 1d7d 1 1 2c64 27d 1 1 2c67 2c68 3 2 2c6d 251 1 1 2c6e 271 1 1 2c6f 250 1 1 2c70 252 1
   1 2c72 2c73 1 1 2c75 2c76 1 1 2c7e 23f 2 1 2c80 2c81 32 2 2ceb 2cec 2 2 2cf2 2cf3 1 1 a640
   a641 17 2 a680 a681 e 2 a722 a723 7 2 a732 a733 1f 2 a779 a77a 2 2 a77d 1d79 1 1 a77e a77f
   5 2 a78b a78c 1 1 a78d 265 1 1 a790 a791 2 2 a796 a797 a 2 a7aa 266 1 1 a7ab 25c 1 1 a7ac
   261 1 1 a7ad 26c 1 1 a7ae 26a 1 1 a7b0 29e 1 1 a7b1 287 1 1 a7b2 29d 1 1 a7b3 ab53 1 1
   a7b4 a7b5 8 2 a7c4 a794 1 1 a7c5 282 1 1 a7c6 1d8e 1 1 a7c7 a7c8 2 2 a7d0 a7d1 1 1 a7d6
   a7d7 2 2 a7f5 a7f6 1 1 ab70 13a0 50 1 ff21 ff41 1a 1 10400 10428 28 1 104b0 104d8 24 1
   10570 10597 b 1 1057c 105a3 f 1 1058c 105b3 7 1 10594 105bb 2 1 10c80 10cc0 33 1 118a0
   118c0 20 1 16e40 16e60 20 1 1e900 1e922 22 1"

end SourceOutline.Unicode
