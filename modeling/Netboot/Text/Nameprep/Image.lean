/-! How characters are mapped and decomposed in names: letters without case, and compatibility
decompositions, as Unicode 3.2 has them. -/

set_option autoImplicit false

namespace Netboot.Text.Nameprep

/-- Runs of characters from first to last with the images of each, in hexadecimal: characters joined
by plus signs, a dash for nothing, a full stop for the character itself. -/
def imageRuns : List (Nat × Nat × String) := [
  (0x41, 0x59, "61 62 63 64 65 66 67 68 69 6a 6b 6c 6d 6e 6f 70 71 72 73 74 75 76 77 78 79"),
  (0x5a, 0x5a, "7a"), (0xa0, 0xa0, "20"),
  (0xa8, 0xba, "20+308 . 61 . . - . 20+304 . . 32 33 20+301 3bc . . 20+327 31 6f"),
  (0xbc, 0xc4, "31+2044+34 31+2044+32 33+2044+34 . 61+300 61+301 61+302 61+303 61+308"),
  (0xc5, 0xcf, "61+30a e6 63+327 65+300 65+301 65+302 65+308 69+300 69+301 69+302 69+308"),
  (0xd0, 0xdb, "f0 6e+303 6f+300 6f+301 6f+302 6f+303 6f+308 . f8 75+300 75+301 75+302"),
  (0xdc, 0xe7, "75+308 79+301 fe 73+73 61+300 61+301 61+302 61+303 61+308 61+30a . 63+327"),
  (0xe8, 0xf2, "65+300 65+301 65+302 65+308 69+300 69+301 69+302 69+308 . 6e+303 6f+300"),
  (0xf3, 0xfd, "6f+301 6f+302 6f+303 6f+308 . . 75+300 75+301 75+302 75+308 79+301"),
  (0xff, 0x108, "79+308 61+304 61+304 61+306 61+306 61+328 61+328 63+301 63+301 63+302"),
  (0x109, 0x113, "63+302 63+307 63+307 63+30c 63+30c 64+30c 64+30c 111 . 65+304 65+304"),
  (0x114, 0x11d, "65+306 65+306 65+307 65+307 65+328 65+328 65+30c 65+30c 67+302 67+302"),
  (0x11e, 0x128, "67+306 67+306 67+307 67+307 67+327 67+327 68+302 68+302 127 . 69+303"),
  (0x129, 0x133, "69+303 69+304 69+304 69+306 69+306 69+328 69+328 69+307 . 69+6a 69+6a"),
  (0x134, 0x13e, "6a+302 6a+302 6b+327 6b+327 . 6c+301 6c+301 6c+327 6c+327 6c+30c 6c+30c"),
  (0x13f, 0x14a, "6c+b7 6c+b7 142 . 6e+301 6e+301 6e+327 6e+327 6e+30c 6e+30c 2bc+6e 14b"),
  (0x14c, 0x156, "6f+304 6f+304 6f+306 6f+306 6f+30b 6f+30b 153 . 72+301 72+301 72+327"),
  (0x157, 0x160, "72+327 72+30c 72+30c 73+301 73+301 73+302 73+302 73+327 73+327 73+30c"),
  (0x161, 0x16b, "73+30c 74+327 74+327 74+30c 74+30c 167 . 75+303 75+303 75+304 75+304"),
  (0x16c, 0x175, "75+306 75+306 75+30a 75+30a 75+30b 75+30b 75+328 75+328 77+302 77+302"),
  (0x176, 0x181, "79+302 79+302 79+308 7a+301 7a+301 7a+307 7a+307 7a+30c 7a+30c 73 . 253"),
  (0x182, 0x197, "183 . 185 . 254 188 . 256 257 18c . . 1dd 259 25b 192 . 260 263 . 269 268"),
  (0x198, 0x198, "199"),
  (0x19c, 0x1af, "26f 272 . 275 6f+31b 6f+31b 1a3 . 1a5 . 280 1a8 . 283 . . 1ad . 288 75+31b"),
  (0x1b0, 0x1b8, "75+31b 28a 28b 1b4 . 1b6 . 292 1b9"), (0x1bc, 0x1bc, "1bd"),
  (0x1c4, 0x1cd, "64+7a+30c 64+7a+30c 64+7a+30c 6c+6a 6c+6a 6c+6a 6e+6a 6e+6a 6e+6a 61+30c"),
  (0x1ce, 0x1d6, "61+30c 69+30c 69+30c 6f+30c 6f+30c 75+30c 75+30c 75+308+304 75+308+304"),
  (0x1d7, 0x1dc, "75+308+301 75+308+301 75+308+30c 75+308+30c 75+308+300 75+308+300"),
  (0x1de, 0x1e6, "61+308+304 61+308+304 61+307+304 61+307+304 e6+304 e6+304 1e5 . 67+30c"),
  (0x1e7, 0x1ef, "67+30c 6b+30c 6b+30c 6f+328 6f+328 6f+328+304 6f+328+304 292+30c 292+30c"),
  (0x1f0, 0x1fa, "6a+30c 64+7a 64+7a 64+7a 67+301 67+301 195 1bf 6e+300 6e+300 61+30a+301"),
  (0x1fb, 0x204, "61+30a+301 e6+301 e6+301 f8+301 f8+301 61+30f 61+30f 61+311 61+311 65+30f"),
  (0x205, 0x20e, "65+30f 65+311 65+311 69+30f 69+30f 69+311 69+311 6f+30f 6f+30f 6f+311"),
  (0x20f, 0x218, "6f+311 72+30f 72+30f 72+311 72+311 75+30f 75+30f 75+311 75+311 73+326"),
  (0x219, 0x227, "73+326 74+326 74+326 21d . 68+30c 68+30c 19e . 223 . 225 . 61+307 61+307"),
  (0x228, 0x22f, "65+327 65+327 6f+308+304 6f+308+304 6f+303+304 6f+303+304 6f+307 6f+307"),
  (0x230, 0x233, "6f+307+304 6f+307+304 79+304 79+304"),
  (0x23a, 0x24e, "2c65 23c . 19a 2c66 . . 242 . 180 289 28c 247 . 249 . 24b . 24d . 24f"),
  (0x2b0, 0x2b8, "68 266 6a 72 279 27b 281 77 79"),
  (0x2d8, 0x2e4, "20+306 20+307 20+30a 20+328 20+303 20+30b . . 263 6c 73 78 295"),
  (0x340, 0x345, "300 301 . 313 308+301 3b9"), (0x34f, 0x34f, "-"),
  (0x370, 0x376, "371 . 373 . 2b9 . 377"), (0x37a, 0x37a, "20+3b9"), (0x37e, 0x37f, "3b 3f3"),
  (0x384, 0x38e, "20+301 20+308+301 3b1+301 b7 3b5+301 3b7+301 3b9+301 . 3bf+301 . 3c5+301"),
  (0x38f, 0x39d, "3c9+301 3b9+308+301 3b1 3b2 3b3 3b4 3b5 3b6 3b7 3b8 3b9 3ba 3bb 3bc 3bd"),
  (0x39e, 0x3ac, "3be 3bf 3c0 3c1 . 3c3 3c4 3c5 3c6 3c7 3c8 3c9 3b9+308 3c5+308 3b1+301"),
  (0x3ad, 0x3b0, "3b5+301 3b7+301 3b9+301 3c5+308+301"), (0x3c2, 0x3c2, "3c3"),
  (0x3ca, 0x3d4, "3b9+308 3c5+308 3bf+301 3c5+301 3c9+301 3d7 3b2 3b8 3c5 3c5+301 3c5+308"),
  (0x3d5, 0x3ec, "3c6 3c0 . 3d9 . 3db . 3dd . 3df . 3e1 . 3e3 . 3e5 . 3e7 . 3e9 . 3eb . 3ed"),
  (0x3ee, 0x400, "3ef . 3ba 3c1 3c3 . 3b8 3b5 . 3f8 . 3c3 3fb . . 37b 37c 37d 435+300"),
  (0x401, 0x40d, "435+308 452 433+301 454 455 456 456+308 458 459 45a 45b 43a+301 438+300"),
  (0x40e, 0x41d, "443+306 45f 430 431 432 433 434 435 436 437 438 438+306 43a 43b 43c 43d"),
  (0x41e, 0x42f, "43e 43f 440 441 442 443 444 445 446 447 448 449 44a 44b 44c 44d 44e 44f"),
  (0x439, 0x439, "438+306"), (0x450, 0x453, "435+300 435+308 . 433+301"),
  (0x457, 0x457, "456+308"),
  (0x45c, 0x46e, "43a+301 438+300 443+306 . 461 . 463 . 465 . 467 . 469 . 46b . 46d . 46f"),
  (0x470, 0x480, "471 . 473 . 475 . 475+30f 475+30f 479 . 47b . 47d . 47f . 481"),
  (0x48a, 0x4a0, "48b . 48d . 48f . 491 . 493 . 495 . 497 . 499 . 49b . 49d . 49f . 4a1"),
  (0x4a2, 0x4b8, "4a3 . 4a5 . 4a7 . 4a9 . 4ab . 4ad . 4af . 4b1 . 4b3 . 4b5 . 4b7 . 4b9"),
  (0x4ba, 0x4cd, "4bb . 4bd . 4bf . 4cf 436+306 436+306 4c4 . 4c6 . 4c8 . 4ca . 4cc . 4ce"),
  (0x4d0, 0x4da, "430+306 430+306 430+308 430+308 4d5 . 435+306 435+306 4d9 . 4d9+308"),
  (0x4db, 0x4e4, "4d9+308 436+308 436+308 437+308 437+308 4e1 . 438+304 438+304 438+308"),
  (0x4e5, 0x4ee, "438+308 43e+308 43e+308 4e9 . 4e9+308 4e9+308 44d+308 44d+308 443+304"),
  (0x4ef, 0x4f8, "443+304 443+308 443+308 443+30b 443+30b 447+308 447+308 4f7 . 44b+308"),
  (0x4f9, 0x50e, "44b+308 4fb . 4fd . 4ff . 501 . 503 . 505 . 507 . 509 . 50b . 50d . 50f"),
  (0x510, 0x526, "511 . 513 . 515 . 517 . 519 . 51b . 51d . 51f . 521 . 523 . 525 . 527"),
  (0x528, 0x53c, "529 . 52b . 52d . 52f . . 561 562 563 564 565 566 567 568 569 56a 56b 56c"),
  (0x53d, 0x54e, "56d 56e 56f 570 571 572 573 574 575 576 577 578 579 57a 57b 57c 57d 57e"),
  (0x54f, 0x556, "57f 580 581 582 583 584 585 586"), (0x587, 0x587, "565+582"),
  (0x622, 0x626, "627+653 627+654 648+654 627+655 64a+654"),
  (0x675, 0x678, "627+674 648+674 6c7+674 64a+674"), (0x6c0, 0x6c2, "6d5+654 . 6c1+654"),
  (0x6d3, 0x6d3, "6d2+654"), (0x929, 0x929, "928+93c"), (0x931, 0x934, "930+93c . . 933+93c"),
  (0x958, 0x95f, "915+93c 916+93c 917+93c 91c+93c 921+93c 922+93c 92b+93c 92f+93c"),
  (0x9cb, 0x9cc, "9c7+9be 9c7+9d7"), (0x9dc, 0x9df, "9a1+9bc 9a2+9bc . 9af+9bc"),
  (0xa33, 0xa36, "a32+a3c . . a38+a3c"), (0xa59, 0xa5e, "a16+a3c a17+a3c a1c+a3c . . a2b+a3c"),
  (0xb48, 0xb4c, "b47+b56 . . b47+b3e b47+b57"), (0xb5c, 0xb5d, "b21+b3c b22+b3c"),
  (0xb94, 0xb94, "b92+bd7"), (0xbca, 0xbcc, "bc6+bbe bc7+bbe bc6+bd7"), (0xc48, 0xc48, "c46+c56"),
  (0xcc0, 0xcc0, "cbf+cd5"), (0xcc7, 0xccb, "cc6+cd5 cc6+cd6 . cc6+cc2 cc6+cc2+cd5"),
  (0xd4a, 0xd4c, "d46+d3e d47+d3e d46+d57"),
  (0xdda, 0xdde, "dd9+dca . dd9+dcf dd9+dcf+dca dd9+ddf"), (0xe33, 0xe33, "e4d+e32"),
  (0xeb3, 0xeb3, "ecd+eb2"), (0xedc, 0xedd, "eab+e99 eab+ea1"), (0xf0c, 0xf0c, "f0b"),
  (0xf43, 0xf43, "f42+fb7"), (0xf4d, 0xf4d, "f4c+fb7"), (0xf52, 0xf52, "f51+fb7"),
  (0xf57, 0xf57, "f56+fb7"), (0xf5c, 0xf5c, "f5b+fb7"), (0xf69, 0xf69, "f40+fb5"),
  (0xf73, 0xf79, "f71+f72 . f71+f74 fb2+f80 fb2+f71+f80 fb3+f80 fb3+f71+f80"),
  (0xf81, 0xf81, "f71+f80"), (0xf93, 0xf93, "f92+fb7"), (0xf9d, 0xf9d, "f9c+fb7"),
  (0xfa2, 0xfa2, "fa1+fb7"), (0xfa7, 0xfa7, "fa6+fb7"), (0xfac, 0xfac, "fab+fb7"),
  (0xfb9, 0xfb9, "f90+fb5"), (0x1026, 0x1026, "1025+102e"),
  (0x10a0, 0x10ae, "2d00 2d01 2d02 2d03 2d04 2d05 2d06 2d07 2d08 2d09 2d0a 2d0b 2d0c 2d0d 2d0e"),
  (0x10af, 0x10bd, "2d0f 2d10 2d11 2d12 2d13 2d14 2d15 2d16 2d17 2d18 2d19 2d1a 2d1b 2d1c 2d1d"),
  (0x10be, 0x10c7, "2d1e 2d1f 2d20 2d21 2d22 2d23 2d24 2d25 . 2d27"), (0x10cd, 0x10cd, "2d2d"),
  (0x13a0, 0x13ae, "ab70 ab71 ab72 ab73 ab74 ab75 ab76 ab77 ab78 ab79 ab7a ab7b ab7c ab7d ab7e"),
  (0x13af, 0x13bd, "ab7f ab80 ab81 ab82 ab83 ab84 ab85 ab86 ab87 ab88 ab89 ab8a ab8b ab8c ab8d"),
  (0x13be, 0x13cc, "ab8e ab8f ab90 ab91 ab92 ab93 ab94 ab95 ab96 ab97 ab98 ab99 ab9a ab9b ab9c"),
  (0x13cd, 0x13db, "ab9d ab9e ab9f aba0 aba1 aba2 aba3 aba4 aba5 aba6 aba7 aba8 aba9 abaa abab"),
  (0x13dc, 0x13ea, "abac abad abae abaf abb0 abb1 abb2 abb3 abb4 abb5 abb6 abb7 abb8 abb9 abba"),
  (0x13eb, 0x13f5, "abbb abbc abbd abbe abbf 13f8 13f9 13fa 13fb 13fc 13fd"),
  (0x1806, 0x1806, "-"), (0x180b, 0x180d, "- - -"),
  (0x1c90, 0x1c9e, "10d0 10d1 10d2 10d3 10d4 10d5 10d6 10d7 10d8 10d9 10da 10db 10dc 10dd 10de"),
  (0x1c9f, 0x1cad, "10df 10e0 10e1 10e2 10e3 10e4 10e5 10e6 10e7 10e8 10e9 10ea 10eb 10ec 10ed"),
  (0x1cae, 0x1cbd, "10ee 10ef 10f0 10f1 10f2 10f3 10f4 10f5 10f6 10f7 10f8 10f9 10fa . . 10fd"),
  (0x1cbe, 0x1cbf, "10fe 10ff"),
  (0x1e00, 0x1e08, "61+325 61+325 62+307 62+307 62+323 62+323 62+331 62+331 63+327+301"),
  (0x1e09, 0x1e12, "63+327+301 64+307 64+307 64+323 64+323 64+331 64+331 64+327 64+327 64+32d"),
  (0x1e13, 0x1e1a, "64+32d 65+304+300 65+304+300 65+304+301 65+304+301 65+32d 65+32d 65+330"),
  (0x1e1b, 0x1e23, "65+330 65+327+306 65+327+306 66+307 66+307 67+304 67+304 68+307 68+307"),
  (0x1e24, 0x1e2d, "68+323 68+323 68+308 68+308 68+327 68+327 68+32e 68+32e 69+330 69+330"),
  (0x1e2e, 0x1e36, "69+308+301 69+308+301 6b+301 6b+301 6b+323 6b+323 6b+331 6b+331 6c+323"),
  (0x1e37, 0x1e3f, "6c+323 6c+323+304 6c+323+304 6c+331 6c+331 6c+32d 6c+32d 6d+301 6d+301"),
  (0x1e40, 0x1e49, "6d+307 6d+307 6d+323 6d+323 6e+307 6e+307 6e+323 6e+323 6e+331 6e+331"),
  (0x1e4a, 0x1e50, "6e+32d 6e+32d 6f+303+301 6f+303+301 6f+303+308 6f+303+308 6f+304+300"),
  (0x1e51, 0x1e59, "6f+304+300 6f+304+301 6f+304+301 70+301 70+301 70+307 70+307 72+307 72+307"),
  (0x1e5a, 0x1e62, "72+323 72+323 72+323+304 72+323+304 72+331 72+331 73+307 73+307 73+323"),
  (0x1e63, 0x1e69, "73+323 73+301+307 73+301+307 73+30c+307 73+30c+307 73+323+307 73+323+307"),
  (0x1e6a, 0x1e73, "74+307 74+307 74+323 74+323 74+331 74+331 74+32d 74+32d 75+324 75+324"),
  (0x1e74, 0x1e7b, "75+330 75+330 75+32d 75+32d 75+303+301 75+303+301 75+304+308 75+304+308"),
  (0x1e7c, 0x1e85, "76+303 76+303 76+323 76+323 77+300 77+300 77+301 77+301 77+308 77+308"),
  (0x1e86, 0x1e8f, "77+307 77+307 77+323 77+323 78+307 78+307 78+308 78+308 79+307 79+307"),
  (0x1e90, 0x1e99, "7a+302 7a+302 7a+323 7a+323 7a+331 7a+331 68+331 74+308 77+30a 79+30a"),
  (0x1e9a, 0x1ea4, "61+2be 73+307 . . 73+73 . 61+323 61+323 61+309 61+309 61+302+301"),
  (0x1ea5, 0x1eaa, "61+302+301 61+302+300 61+302+300 61+302+309 61+302+309 61+302+303"),
  (0x1eab, 0x1eb0, "61+302+303 61+323+302 61+323+302 61+306+301 61+306+301 61+306+300"),
  (0x1eb1, 0x1eb6, "61+306+300 61+306+309 61+306+309 61+306+303 61+306+303 61+323+306"),
  (0x1eb7, 0x1ebf, "61+323+306 65+323 65+323 65+309 65+309 65+303 65+303 65+302+301 65+302+301"),
  (0x1ec0, 0x1ec5, "65+302+300 65+302+300 65+302+309 65+302+309 65+302+303 65+302+303"),
  (0x1ec6, 0x1ece, "65+323+302 65+323+302 69+309 69+309 69+323 69+323 6f+323 6f+323 6f+309"),
  (0x1ecf, 0x1ed5, "6f+309 6f+302+301 6f+302+301 6f+302+300 6f+302+300 6f+302+309 6f+302+309"),
  (0x1ed6, 0x1edb, "6f+302+303 6f+302+303 6f+323+302 6f+323+302 6f+31b+301 6f+31b+301"),
  (0x1edc, 0x1ee1, "6f+31b+300 6f+31b+300 6f+31b+309 6f+31b+309 6f+31b+303 6f+31b+303"),
  (0x1ee2, 0x1ee9, "6f+31b+323 6f+31b+323 75+323 75+323 75+309 75+309 75+31b+301 75+31b+301"),
  (0x1eea, 0x1eef, "75+31b+300 75+31b+300 75+31b+309 75+31b+309 75+31b+303 75+31b+303"),
  (0x1ef0, 0x1ef8, "75+31b+323 75+31b+323 79+300 79+300 79+323 79+323 79+309 79+309 79+303"),
  (0x1ef9, 0x1f03, "79+303 1efb . 1efd . 1eff . 3b1+313 3b1+314 3b1+313+300 3b1+314+300"),
  (0x1f04, 0x1f09, "3b1+313+301 3b1+314+301 3b1+313+342 3b1+314+342 3b1+313 3b1+314"),
  (0x1f0a, 0x1f0f, "3b1+313+300 3b1+314+300 3b1+313+301 3b1+314+301 3b1+313+342 3b1+314+342"),
  (0x1f10, 0x1f15, "3b5+313 3b5+314 3b5+313+300 3b5+314+300 3b5+313+301 3b5+314+301"),
  (0x1f18, 0x1f1d, "3b5+313 3b5+314 3b5+313+300 3b5+314+300 3b5+313+301 3b5+314+301"),
  (0x1f20, 0x1f25, "3b7+313 3b7+314 3b7+313+300 3b7+314+300 3b7+313+301 3b7+314+301"),
  (0x1f26, 0x1f2b, "3b7+313+342 3b7+314+342 3b7+313 3b7+314 3b7+313+300 3b7+314+300"),
  (0x1f2c, 0x1f31, "3b7+313+301 3b7+314+301 3b7+313+342 3b7+314+342 3b9+313 3b9+314"),
  (0x1f32, 0x1f37, "3b9+313+300 3b9+314+300 3b9+313+301 3b9+314+301 3b9+313+342 3b9+314+342"),
  (0x1f38, 0x1f3d, "3b9+313 3b9+314 3b9+313+300 3b9+314+300 3b9+313+301 3b9+314+301"),
  (0x1f3e, 0x1f43, "3b9+313+342 3b9+314+342 3bf+313 3bf+314 3bf+313+300 3bf+314+300"),
  (0x1f44, 0x1f4b, "3bf+313+301 3bf+314+301 . . 3bf+313 3bf+314 3bf+313+300 3bf+314+300"),
  (0x1f4c, 0x1f53, "3bf+313+301 3bf+314+301 . . 3c5+313 3c5+314 3c5+313+300 3c5+314+300"),
  (0x1f54, 0x1f5b, "3c5+313+301 3c5+314+301 3c5+313+342 3c5+314+342 . 3c5+314 . 3c5+314+300"),
  (0x1f5d, 0x1f63, "3c5+314+301 . 3c5+314+342 3c9+313 3c9+314 3c9+313+300 3c9+314+300"),
  (0x1f64, 0x1f69, "3c9+313+301 3c9+314+301 3c9+313+342 3c9+314+342 3c9+313 3c9+314"),
  (0x1f6a, 0x1f6f, "3c9+313+300 3c9+314+300 3c9+313+301 3c9+314+301 3c9+313+342 3c9+314+342"),
  (0x1f70, 0x1f78, "3b1+300 3b1+301 3b5+300 3b5+301 3b7+300 3b7+301 3b9+300 3b9+301 3bf+300"),
  (0x1f79, 0x1f81, "3bf+301 3c5+300 3c5+301 3c9+300 3c9+301 . . 3b1+313+3b9 3b1+314+3b9"),
  (0x1f82, 0x1f85, "3b1+313+300+3b9 3b1+314+300+3b9 3b1+313+301+3b9 3b1+314+301+3b9"),
  (0x1f86, 0x1f8a, "3b1+313+342+3b9 3b1+314+342+3b9 3b1+313+3b9 3b1+314+3b9 3b1+313+300+3b9"),
  (0x1f8b, 0x1f8e, "3b1+314+300+3b9 3b1+313+301+3b9 3b1+314+301+3b9 3b1+313+342+3b9"),
  (0x1f8f, 0x1f93, "3b1+314+342+3b9 3b7+313+3b9 3b7+314+3b9 3b7+313+300+3b9 3b7+314+300+3b9"),
  (0x1f94, 0x1f97, "3b7+313+301+3b9 3b7+314+301+3b9 3b7+313+342+3b9 3b7+314+342+3b9"),
  (0x1f98, 0x1f9c, "3b7+313+3b9 3b7+314+3b9 3b7+313+300+3b9 3b7+314+300+3b9 3b7+313+301+3b9"),
  (0x1f9d, 0x1fa1, "3b7+314+301+3b9 3b7+313+342+3b9 3b7+314+342+3b9 3c9+313+3b9 3c9+314+3b9"),
  (0x1fa2, 0x1fa5, "3c9+313+300+3b9 3c9+314+300+3b9 3c9+313+301+3b9 3c9+314+301+3b9"),
  (0x1fa6, 0x1faa, "3c9+313+342+3b9 3c9+314+342+3b9 3c9+313+3b9 3c9+314+3b9 3c9+313+300+3b9"),
  (0x1fab, 0x1fae, "3c9+314+300+3b9 3c9+313+301+3b9 3c9+314+301+3b9 3c9+313+342+3b9"),
  (0x1faf, 0x1fb6, "3c9+314+342+3b9 3b1+306 3b1+304 3b1+300+3b9 3b1+3b9 3b1+301+3b9 . 3b1+342"),
  (0x1fb7, 0x1fbf, "3b1+342+3b9 3b1+306 3b1+304 3b1+300 3b1+301 3b1+3b9 20+313 3b9 20+313"),
  (0x1fc0, 0x1fc7, "20+342 20+308+342 3b7+300+3b9 3b7+3b9 3b7+301+3b9 . 3b7+342 3b7+342+3b9"),
  (0x1fc8, 0x1fcf, "3b5+300 3b5+301 3b7+300 3b7+301 3b7+3b9 20+313+300 20+313+301 20+313+342"),
  (0x1fd0, 0x1fd8, "3b9+306 3b9+304 3b9+308+300 3b9+308+301 . . 3b9+342 3b9+308+342 3b9+306"),
  (0x1fd9, 0x1fe1, "3b9+304 3b9+300 3b9+301 . 20+314+300 20+314+301 20+314+342 3c5+306 3c5+304"),
  (0x1fe2, 0x1fe8, "3c5+308+300 3c5+308+301 3c1+313 3c1+314 3c5+342 3c5+308+342 3c5+306"),
  (0x1fe9, 0x1ff2, "3c5+304 3c5+300 3c5+301 3c1+314 20+308+300 20+308+301 60 . . 3c9+300+3b9"),
  (0x1ff3, 0x1ffb, "3c9+3b9 3c9+301+3b9 . 3c9+342 3c9+342+3b9 3bf+300 3bf+301 3c9+300 3c9+301"),
  (0x1ffc, 0x200d, "3c9+3b9 20+301 20+314 . 20 20 20 20 20 20 20 20 20 20 20 - - -"),
  (0x2011, 0x2011, "2010"), (0x2017, 0x2017, "20+333"), (0x2024, 0x2026, "2e 2e+2e 2e+2e+2e"),
  (0x202f, 0x202f, "20"), (0x2033, 0x2037, "2032+2032 2032+2032+2032 . 2035+2035 2035+2035+2035"),
  (0x203c, 0x203e, "21+21 . 20+305"), (0x2047, 0x2049, "3f+3f 3f+21 21+3f"),
  (0x2057, 0x2057, "2032+2032+2032+2032"), (0x205f, 0x2060, "20 -"),
  (0x2070, 0x2088, "30 69 . . 34 35 36 37 38 39 2b 2212 3d 28 29 6e 30 31 32 33 34 35 36 37 38"),
  (0x2089, 0x208e, "39 2b 2212 3d 28 29"), (0x20a8, 0x20a8, "72+73"),
  (0x2100, 0x210e, "61+2f+63 61+2f+73 63 b0+63 . 63+2f+6f 63+2f+75 25b . b0+66 67 68 68 68 68"),
  (0x210f, 0x2122, "127 69 69 6c 6c . 6e 6e+6f . . 70 71 72 72 72 . . 73+6d 74+65+6c 74+6d"),
  (0x2124, 0x2139, "7a . 3c9 . 7a . 6b 61+30a 62 63 . 65 65 66 214e 6d 6f 5d0 5d1 5d2 5d3 69"),
  (0x213d, 0x2140, "3b3 3b3 3c0 2211"), (0x2145, 0x2149, "64 64 65 69 6a"),
  (0x2153, 0x2158, "31+2044+33 32+2044+33 31+2044+35 32+2044+35 33+2044+35 34+2044+35"),
  (0x2159, 0x215f, "31+2044+36 35+2044+36 31+2044+38 33+2044+38 35+2044+38 37+2044+38 31+2044"),
  (0x2160, 0x216a, "69 69+69 69+69+69 69+76 76 76+69 76+69+69 76+69+69+69 69+78 78 78+69"),
  (0x216b, 0x2177, "78+69+69 6c 63 64 6d 69 69+69 69+69+69 69+76 76 76+69 76+69+69 76+69+69+69"),
  (0x2178, 0x217f, "69+78 78 78+69 78+69+69 6c 63 64 6d"), (0x2183, 0x2183, "2184"),
  (0x219a, 0x219b, "2190+338 2192+338"), (0x21ae, 0x21ae, "2194+338"),
  (0x21cd, 0x21cf, "21d0+338 21d4+338 21d2+338"), (0x2204, 0x2204, "2203+338"),
  (0x2209, 0x220c, "2208+338 . . 220b+338"), (0x2224, 0x2226, "2223+338 . 2225+338"),
  (0x222c, 0x2230, "222b+222b 222b+222b+222b . 222e+222e 222e+222e+222e"),
  (0x2241, 0x2249, "223c+338 . . 2243+338 . . 2245+338 . 2248+338"),
  (0x2260, 0x2262, "3d+338 . 2261+338"),
  (0x226d, 0x2275, "224d+338 3c+338 3e+338 2264+338 2265+338 . . 2272+338 2273+338"),
  (0x2278, 0x2279, "2276+338 2277+338"),
  (0x2280, 0x2289, "227a+338 227b+338 . . 2282+338 2283+338 . . 2286+338 2287+338"),
  (0x22ac, 0x22af, "22a2+338 22a8+338 22a9+338 22ab+338"),
  (0x22e0, 0x22e3, "227c+338 227d+338 2291+338 2292+338"),
  (0x22ea, 0x22ed, "22b2+338 22b3+338 22b4+338 22b5+338"), (0x2329, 0x232a, "3008 3009"),
  (0x2460, 0x2470, "31 32 33 34 35 36 37 38 39 31+30 31+31 31+32 31+33 31+34 31+35 31+36 31+37"),
  (0x2471, 0x2479, "31+38 31+39 32+30 28+31+29 28+32+29 28+33+29 28+34+29 28+35+29 28+36+29"),
  (0x247a, 0x2480, "28+37+29 28+38+29 28+39+29 28+31+30+29 28+31+31+29 28+31+32+29 28+31+33+29"),
  (0x2481, 0x2486, "28+31+34+29 28+31+35+29 28+31+36+29 28+31+37+29 28+31+38+29 28+31+39+29"),
  (0x2487, 0x2491, "28+32+30+29 31+2e 32+2e 33+2e 34+2e 35+2e 36+2e 37+2e 38+2e 39+2e 31+30+2e"),
  (0x2492, 0x2499, "31+31+2e 31+32+2e 31+33+2e 31+34+2e 31+35+2e 31+36+2e 31+37+2e 31+38+2e"),
  (0x249a, 0x24a1, "31+39+2e 32+30+2e 28+61+29 28+62+29 28+63+29 28+64+29 28+65+29 28+66+29"),
  (0x24a2, 0x24a9, "28+67+29 28+68+29 28+69+29 28+6a+29 28+6b+29 28+6c+29 28+6d+29 28+6e+29"),
  (0x24aa, 0x24b1, "28+6f+29 28+70+29 28+71+29 28+72+29 28+73+29 28+74+29 28+75+29 28+76+29"),
  (0x24b2, 0x24c2, "28+77+29 28+78+29 28+79+29 28+7a+29 61 62 63 64 65 66 67 68 69 6a 6b 6c 6d"),
  (0x24c3, 0x24db, "6e 6f 70 71 72 73 74 75 76 77 78 79 7a 61 62 63 64 65 66 67 68 69 6a 6b 6c"),
  (0x24dc, 0x24ea, "6d 6e 6f 70 71 72 73 74 75 76 77 78 79 7a 30"),
  (0x2a0c, 0x2a0c, "222b+222b+222b+222b"), (0x2a74, 0x2a76, "3a+3a+3d 3d+3d 3d+3d+3d"),
  (0x2adc, 0x2adc, "2add+338"),
  (0x2c00, 0x2c0e, "2c30 2c31 2c32 2c33 2c34 2c35 2c36 2c37 2c38 2c39 2c3a 2c3b 2c3c 2c3d 2c3e"),
  (0x2c0f, 0x2c1d, "2c3f 2c40 2c41 2c42 2c43 2c44 2c45 2c46 2c47 2c48 2c49 2c4a 2c4b 2c4c 2c4d"),
  (0x2c1e, 0x2c2c, "2c4e 2c4f 2c50 2c51 2c52 2c53 2c54 2c55 2c56 2c57 2c58 2c59 2c5a 2c5b 2c5c"),
  (0x2c2d, 0x2c2f, "2c5d 2c5e 2c5f"),
  (0x2c60, 0x2c72, "2c61 . 26b 1d7d 27d . . 2c68 . 2c6a . 2c6c . 251 271 250 252 . 2c73"),
  (0x2c75, 0x2c75, "2c76"),
  (0x2c7e, 0x2c90, "23f 240 2c81 . 2c83 . 2c85 . 2c87 . 2c89 . 2c8b . 2c8d . 2c8f . 2c91"),
  (0x2c92, 0x2ca6, "2c93 . 2c95 . 2c97 . 2c99 . 2c9b . 2c9d . 2c9f . 2ca1 . 2ca3 . 2ca5 . 2ca7"),
  (0x2ca8, 0x2cbc, "2ca9 . 2cab . 2cad . 2caf . 2cb1 . 2cb3 . 2cb5 . 2cb7 . 2cb9 . 2cbb . 2cbd"),
  (0x2cbe, 0x2cd2, "2cbf . 2cc1 . 2cc3 . 2cc5 . 2cc7 . 2cc9 . 2ccb . 2ccd . 2ccf . 2cd1 . 2cd3"),
  (0x2cd4, 0x2ce2, "2cd5 . 2cd7 . 2cd9 . 2cdb . 2cdd . 2cdf . 2ce1 . 2ce3"),
  (0x2ceb, 0x2ced, "2cec . 2cee"), (0x2cf2, 0x2cf2, "2cf3"), (0x2e9f, 0x2e9f, "6bcd"),
  (0x2ef3, 0x2ef3, "9f9f"),
  (0x2f00, 0x2f0e, "4e00 4e28 4e36 4e3f 4e59 4e85 4e8c 4ea0 4eba 513f 5165 516b 5182 5196 51ab"),
  (0x2f0f, 0x2f1d, "51e0 51f5 5200 529b 52f9 5315 531a 5338 5341 535c 5369 5382 53b6 53c8 53e3"),
  (0x2f1e, 0x2f2c, "56d7 571f 58eb 5902 590a 5915 5927 5973 5b50 5b80 5bf8 5c0f 5c22 5c38 5c6e"),
  (0x2f2d, 0x2f3b, "5c71 5ddb 5de5 5df1 5dfe 5e72 5e7a 5e7f 5ef4 5efe 5f0b 5f13 5f50 5f61 5f73"),
  (0x2f3c, 0x2f4a, "5fc3 6208 6236 624b 652f 6534 6587 6597 65a4 65b9 65e0 65e5 66f0 6708 6728"),
  (0x2f4b, 0x2f59, "6b20 6b62 6b79 6bb3 6bcb 6bd4 6bdb 6c0f 6c14 6c34 706b 722a 7236 723b 723f"),
  (0x2f5a, 0x2f68, "7247 7259 725b 72ac 7384 7389 74dc 74e6 7518 751f 7528 7530 758b 7592 7676"),
  (0x2f69, 0x2f77, "767d 76ae 76bf 76ee 77db 77e2 77f3 793a 79b8 79be 7a74 7acb 7af9 7c73 7cf8"),
  (0x2f78, 0x2f86, "7f36 7f51 7f8a 7fbd 8001 800c 8012 8033 807f 8089 81e3 81ea 81f3 81fc 820c"),
  (0x2f87, 0x2f95, "821b 821f 826e 8272 8278 864d 866b 8840 884c 8863 897e 898b 89d2 8a00 8c37"),
  (0x2f96, 0x2fa4, "8c46 8c55 8c78 8c9d 8d64 8d70 8db3 8eab 8eca 8f9b 8fb0 8fb5 9091 9149 91c6"),
  (0x2fa5, 0x2fb3, "91cc 91d1 9577 9580 961c 96b6 96b9 96e8 9751 975e 9762 9769 97cb 97ed 97f3"),
  (0x2fb4, 0x2fc2, "9801 98a8 98db 98df 9996 9999 99ac 9aa8 9ad8 9adf 9b25 9b2f 9b32 9b3c 9b5a"),
  (0x2fc3, 0x2fd1, "9ce5 9e75 9e7f 9ea5 9ebb 9ec3 9ecd 9ed1 9ef9 9efd 9f0e 9f13 9f20 9f3b 9f4a"),
  (0x2fd2, 0x2fd5, "9f52 9f8d 9f9c 9fa0"), (0x3000, 0x3000, "20"),
  (0x3036, 0x303a, "3012 . 5341 5344 5345"),
  (0x304c, 0x3056, "304b+3099 . 304d+3099 . 304f+3099 . 3051+3099 . 3053+3099 . 3055+3099"),
  (0x3058, 0x3062, "3057+3099 . 3059+3099 . 305b+3099 . 305d+3099 . 305f+3099 . 3061+3099"),
  (0x3065, 0x3069, "3064+3099 . 3066+3099 . 3068+3099"),
  (0x3070, 0x3077, "306f+3099 306f+309a . 3072+3099 3072+309a . 3075+3099 3075+309a"),
  (0x3079, 0x307d, "3078+3099 3078+309a . 307b+3099 307b+309a"), (0x3094, 0x3094, "3046+3099"),
  (0x309b, 0x309f, "20+3099 20+309a . 309d+3099 3088+308a"),
  (0x30ac, 0x30b6, "30ab+3099 . 30ad+3099 . 30af+3099 . 30b1+3099 . 30b3+3099 . 30b5+3099"),
  (0x30b8, 0x30c2, "30b7+3099 . 30b9+3099 . 30bb+3099 . 30bd+3099 . 30bf+3099 . 30c1+3099"),
  (0x30c5, 0x30c9, "30c4+3099 . 30c6+3099 . 30c8+3099"),
  (0x30d0, 0x30d7, "30cf+3099 30cf+309a . 30d2+3099 30d2+309a . 30d5+3099 30d5+309a"),
  (0x30d9, 0x30dd, "30d8+3099 30d8+309a . 30db+3099 30db+309a"),
  (0x30f4, 0x30fa, "30a6+3099 . . 30ef+3099 30f0+3099 30f1+3099 30f2+3099"),
  (0x30fe, 0x30ff, "30fd+3099 30b3+30c8"),
  (0x3131, 0x313f, "1100 1101 11aa 1102 11ac 11ad 1103 1104 1105 11b0 11b1 11b2 11b3 11b4 11b5"),
  (0x3140, 0x314e, "111a 1106 1107 1108 1121 1109 110a 110b 110c 110d 110e 110f 1110 1111 1112"),
  (0x314f, 0x315d, "1161 1162 1163 1164 1165 1166 1167 1168 1169 116a 116b 116c 116d 116e 116f"),
  (0x315e, 0x316c, "1170 1171 1172 1173 1174 1175 1160 1114 1115 11c7 11c8 11cc 11ce 11d3 11d7"),
  (0x316d, 0x317b, "11d9 111c 11dd 11df 111d 111e 1120 1122 1123 1127 1129 112b 112c 112d 112e"),
  (0x317c, 0x318a, "112f 1132 1136 1140 1147 114c 11f1 11f2 1157 1158 1159 1184 1185 1188 1191"),
  (0x318b, 0x318e, "1192 1194 119e 11a1"),
  (0x3192, 0x319f, "4e00 4e8c 4e09 56db 4e0a 4e2d 4e0b 7532 4e59 4e19 4e01 5929 5730 4eba"),
  (0x3200, 0x3205, "28+1100+29 28+1102+29 28+1103+29 28+1105+29 28+1106+29 28+1107+29"),
  (0x3206, 0x320b, "28+1109+29 28+110b+29 28+110c+29 28+110e+29 28+110f+29 28+1110+29"),
  (0x320c, 0x3210, "28+1111+29 28+1112+29 28+1100+1161+29 28+1102+1161+29 28+1103+1161+29"),
  (0x3211, 0x3214, "28+1105+1161+29 28+1106+1161+29 28+1107+1161+29 28+1109+1161+29"),
  (0x3215, 0x3218, "28+110b+1161+29 28+110c+1161+29 28+110e+1161+29 28+110f+1161+29"),
  (0x3219, 0x321c, "28+1110+1161+29 28+1111+1161+29 28+1112+1161+29 28+110c+116e+29"),
  (0x3220, 0x3225, "28+4e00+29 28+4e8c+29 28+4e09+29 28+56db+29 28+4e94+29 28+516d+29"),
  (0x3226, 0x322b, "28+4e03+29 28+516b+29 28+4e5d+29 28+5341+29 28+6708+29 28+706b+29"),
  (0x322c, 0x3231, "28+6c34+29 28+6728+29 28+91d1+29 28+571f+29 28+65e5+29 28+682a+29"),
  (0x3232, 0x3237, "28+6709+29 28+793e+29 28+540d+29 28+7279+29 28+8ca1+29 28+795d+29"),
  (0x3238, 0x323d, "28+52b4+29 28+4ee3+29 28+547c+29 28+5b66+29 28+76e3+29 28+4f01+29"),
  (0x323e, 0x3243, "28+8cc7+29 28+5354+29 28+796d+29 28+4f11+29 28+81ea+29 28+81f3+29"),
  (0x3251, 0x325c, "32+31 32+32 32+33 32+34 32+35 32+36 32+37 32+38 32+39 33+30 33+31 33+32"),
  (0x325d, 0x326a, "33+33 33+34 33+35 1100 1102 1103 1105 1106 1107 1109 110b 110c 110e 110f"),
  (0x326b, 0x3273, "1110 1111 1112 1100+1161 1102+1161 1103+1161 1105+1161 1106+1161 1107+1161"),
  (0x3274, 0x327a, "1109+1161 110b+1161 110c+1161 110e+1161 110f+1161 1110+1161 1111+1161"),
  (0x327b, 0x327b, "1112+1161"),
  (0x3280, 0x328e, "4e00 4e8c 4e09 56db 4e94 516d 4e03 516b 4e5d 5341 6708 706b 6c34 6728 91d1"),
  (0x328f, 0x329d, "571f 65e5 682a 6709 793e 540d 7279 8ca1 795d 52b4 79d8 7537 5973 9069 512a"),
  (0x329e, 0x32ac, "5370 6ce8 9805 4f11 5199 6b63 4e0a 4e2d 4e0b 5de6 53f3 533b 5b97 5b66 76e3"),
  (0x32ad, 0x32b9, "4f01 8cc7 5354 591c 33+36 33+37 33+38 33+39 34+30 34+31 34+32 34+33 34+34"),
  (0x32ba, 0x32c3, "34+35 34+36 34+37 34+38 34+39 35+30 31+6708 32+6708 33+6708 34+6708"),
  (0x32c4, 0x32cb, "35+6708 36+6708 37+6708 38+6708 39+6708 31+30+6708 31+31+6708 31+32+6708"),
  (0x32d0, 0x32de, "30a2 30a4 30a6 30a8 30aa 30ab 30ad 30af 30b1 30b3 30b5 30b7 30b9 30bb 30bd"),
  (0x32df, 0x32ed, "30bf 30c1 30c4 30c6 30c8 30ca 30cb 30cc 30cd 30ce 30cf 30d2 30d5 30d8 30db"),
  (0x32ee, 0x32fc, "30de 30df 30e0 30e1 30e2 30e4 30e6 30e8 30e9 30ea 30eb 30ec 30ed 30ef 30f0"),
  (0x32fd, 0x3301, "30f1 30f2 . 30a2+30cf+309a+30fc+30c8 30a2+30eb+30d5+30a1"),
  (0x3302, 0x3304, "30a2+30f3+30d8+309a+30a2 30a2+30fc+30eb 30a4+30cb+30f3+30af+3099"),
  (0x3305, 0x3307, "30a4+30f3+30c1 30a6+30a9+30f3 30a8+30b9+30af+30fc+30c8+3099"),
  (0x3308, 0x330b, "30a8+30fc+30ab+30fc 30aa+30f3+30b9 30aa+30fc+30e0 30ab+30a4+30ea"),
  (0x330c, 0x330e, "30ab+30e9+30c3+30c8 30ab+30ed+30ea+30fc 30ab+3099+30ed+30f3"),
  (0x330f, 0x3311, "30ab+3099+30f3+30de 30ad+3099+30ab+3099 30ad+3099+30cb+30fc"),
  (0x3312, 0x3314, "30ad+30e5+30ea+30fc 30ad+3099+30eb+30bf+3099+30fc 30ad+30ed"),
  (0x3315, 0x3316, "30ad+30ed+30af+3099+30e9+30e0 30ad+30ed+30e1+30fc+30c8+30eb"),
  (0x3317, 0x3319, "30ad+30ed+30ef+30c3+30c8 30af+3099+30e9+30e0 30af+3099+30e9+30e0+30c8+30f3"),
  (0x331a, 0x331c, "30af+30eb+30bb+3099+30a4+30ed 30af+30ed+30fc+30cd 30b1+30fc+30b9"),
  (0x331d, 0x331f, "30b3+30eb+30ca 30b3+30fc+30db+309a 30b5+30a4+30af+30eb"),
  (0x3320, 0x3322, "30b5+30f3+30c1+30fc+30e0 30b7+30ea+30f3+30af+3099 30bb+30f3+30c1"),
  (0x3323, 0x3327, "30bb+30f3+30c8 30bf+3099+30fc+30b9 30c6+3099+30b7 30c8+3099+30eb 30c8+30f3"),
  (0x3328, 0x332b, "30ca+30ce 30ce+30c3+30c8 30cf+30a4+30c4 30cf+309a+30fc+30bb+30f3+30c8"),
  (0x332c, 0x332e, "30cf+309a+30fc+30c4 30cf+3099+30fc+30ec+30eb 30d2+309a+30a2+30b9+30c8+30eb"),
  (0x332f, 0x3331, "30d2+309a+30af+30eb 30d2+309a+30b3 30d2+3099+30eb"),
  (0x3332, 0x3333, "30d5+30a1+30e9+30c3+30c8+3099 30d5+30a3+30fc+30c8"),
  (0x3334, 0x3336, "30d5+3099+30c3+30b7+30a7+30eb 30d5+30e9+30f3 30d8+30af+30bf+30fc+30eb"),
  (0x3337, 0x333a, "30d8+309a+30bd 30d8+309a+30cb+30d2 30d8+30eb+30c4 30d8+309a+30f3+30b9"),
  (0x333b, 0x333d, "30d8+309a+30fc+30b7+3099 30d8+3099+30fc+30bf 30db+309a+30a4+30f3+30c8"),
  (0x333e, 0x3341, "30db+3099+30eb+30c8 30db+30f3 30db+309a+30f3+30c8+3099 30db+30fc+30eb"),
  (0x3342, 0x3345, "30db+30fc+30f3 30de+30a4+30af+30ed 30de+30a4+30eb 30de+30c3+30cf"),
  (0x3346, 0x3349, "30de+30eb+30af 30de+30f3+30b7+30e7+30f3 30df+30af+30ed+30f3 30df+30ea"),
  (0x334a, 0x334c, "30df+30ea+30cf+3099+30fc+30eb 30e1+30ab+3099 30e1+30ab+3099+30c8+30f3"),
  (0x334d, 0x3350, "30e1+30fc+30c8+30eb 30e4+30fc+30c8+3099 30e4+30fc+30eb 30e6+30a2+30f3"),
  (0x3351, 0x3354, "30ea+30c3+30c8+30eb 30ea+30e9 30eb+30d2+309a+30fc 30eb+30fc+30d5+3099+30eb"),
  (0x3355, 0x3359, "30ec+30e0 30ec+30f3+30c8+30b1+3099+30f3 30ef+30c3+30c8 30+70b9 31+70b9"),
  (0x335a, 0x3362, "32+70b9 33+70b9 34+70b9 35+70b9 36+70b9 37+70b9 38+70b9 39+70b9 31+30+70b9"),
  (0x3363, 0x3368, "31+31+70b9 31+32+70b9 31+33+70b9 31+34+70b9 31+35+70b9 31+36+70b9"),
  (0x3369, 0x336e, "31+37+70b9 31+38+70b9 31+39+70b9 32+30+70b9 32+31+70b9 32+32+70b9"),
  (0x336f, 0x3376, "32+33+70b9 32+34+70b9 68+70+61 64+61 61+75 62+61+72 6f+76 70+63"),
  (0x337b, 0x3381, "5e73+6210 662d+548c 5927+6b63 660e+6cbb 682a+5f0f+4f1a+793e 70+61 6e+61"),
  (0x3382, 0x338b, "3bc+61 6d+61 6b+61 6b+62 6d+62 67+62 63+61+6c 6b+63+61+6c 70+66 6e+66"),
  (0x338c, 0x3395, "3bc+66 3bc+67 6d+67 6b+67 68+7a 6b+68+7a 6d+68+7a 67+68+7a 74+68+7a 3bc+6c"),
  (0x3396, 0x33a0, "6d+6c 64+6c 6b+6c 66+6d 6e+6d 3bc+6d 6d+6d 63+6d 6b+6d 6d+6d+32 63+6d+32"),
  (0x33a1, 0x33a8, "6d+32 6b+6d+32 6d+6d+33 63+6d+33 6d+33 6b+6d+33 6d+2215+73 6d+2215+73+32"),
  (0x33a9, 0x33ae, "70+61 6b+70+61 6d+70+61 67+70+61 72+61+64 72+61+64+2215+73"),
  (0x33af, 0x33b7, "72+61+64+2215+73+32 70+73 6e+73 3bc+73 6d+73 70+76 6e+76 3bc+76 6d+76"),
  (0x33b8, 0x33c2, "6b+76 6d+76 70+77 6e+77 3bc+77 6d+77 6b+77 6d+77 6b+3c9 6d+3c9 61+2e+6d+2e"),
  (0x33c3, 0x33cc, "62+71 63+63 63+64 63+2215+6b+67 63+6f+2e 64+62 67+79 68+61 68+70 69+6e"),
  (0x33cd, 0x33d7, "6b+6b 6b+6d 6b+74 6c+6d 6c+6e 6c+6f+67 6c+78 6d+62 6d+69+6c 6d+6f+6c 70+68"),
  (0x33d8, 0x33e2, "70+2e+6d+2e 70+70+6d 70+72 73+72 73+76 77+62 . . 31+65e5 32+65e5 33+65e5"),
  (0x33e3, 0x33ea, "34+65e5 35+65e5 36+65e5 37+65e5 38+65e5 39+65e5 31+30+65e5 31+31+65e5"),
  (0x33eb, 0x33f0, "31+32+65e5 31+33+65e5 31+34+65e5 31+35+65e5 31+36+65e5 31+37+65e5"),
  (0x33f1, 0x33f6, "31+38+65e5 31+39+65e5 32+30+65e5 32+31+65e5 32+32+65e5 32+33+65e5"),
  (0x33f7, 0x33fc, "32+34+65e5 32+35+65e5 32+36+65e5 32+37+65e5 32+38+65e5 32+39+65e5"),
  (0x33fd, 0x33fe, "33+30+65e5 33+31+65e5"),
  (0xa640, 0xa654, "a641 . a643 . a645 . a647 . a649 . a64b . a64d . a64f . a651 . a653 . a655"),
  (0xa656, 0xa66a, "a657 . a659 . a65b . a65d . a65f . a661 . a663 . a665 . a667 . a669 . a66b"),
  (0xa66c, 0xa66c, "a66d"),
  (0xa680, 0xa694, "a681 . a683 . a685 . a687 . a689 . a68b . a68d . a68f . a691 . a693 . a695"),
  (0xa696, 0xa69a, "a697 . a699 . a69b"),
  (0xa722, 0xa72e, "a723 . a725 . a727 . a729 . a72b . a72d . a72f"),
  (0xa732, 0xa746, "a733 . a735 . a737 . a739 . a73b . a73d . a73f . a741 . a743 . a745 . a747"),
  (0xa748, 0xa75c, "a749 . a74b . a74d . a74f . a751 . a753 . a755 . a757 . a759 . a75b . a75d"),
  (0xa75e, 0xa76e, "a75f . a761 . a763 . a765 . a767 . a769 . a76b . a76d . a76f"),
  (0xa779, 0xa786, "a77a . a77c . 1d79 a77f . a781 . a783 . a785 . a787"),
  (0xa78b, 0xa792, "a78c . 265 . . a791 . a793"),
  (0xa796, 0xa7aa, "a797 . a799 . a79b . a79d . a79f . a7a1 . a7a3 . a7a5 . a7a7 . a7a9 . 266"),
  (0xa7ab, 0xa7be, "25c 261 26c 26a . 29e 287 29d ab53 a7b5 . a7b7 . a7b9 . a7bb . a7bd . a7bf"),
  (0xa7c0, 0xa7c9, "a7c1 . a7c3 . a794 282 1d8e a7c8 . a7ca"), (0xa7d0, 0xa7d0, "a7d1"),
  (0xa7d6, 0xa7d8, "a7d7 . a7d9"), (0xa7f5, 0xa7f5, "a7f6"),
  (0xf900, 0xf90e, "8c48 66f4 8eca 8cc8 6ed1 4e32 53e5 9f9c 9f9c 5951 91d1 5587 5948 61f6 7669"),
  (0xf90f, 0xf91d, "7f85 863f 87ba 88f8 908f 6a02 6d1b 70d9 73de 843d 916a 99f1 4e82 5375 6b04"),
  (0xf91e, 0xf92c, "721b 862d 9e1e 5d50 6feb 85cd 8964 62c9 81d8 881f 5eca 6717 6d6a 72fc 90ce"),
  (0xf92d, 0xf93b, "4f86 51b7 52de 64c4 6ad3 7210 76e7 8001 8606 865c 8def 9732 9b6f 9dfa 788c"),
  (0xf93c, 0xf94a, "797f 7da0 83c9 9304 9e7f 8ad6 58df 5f04 7c60 807e 7262 78ca 8cc2 96f7 58d8"),
  (0xf94b, 0xf959, "5c62 6a13 6dda 6f0f 7d2f 7e37 964b 52d2 808b 51dc 51cc 7a1c 7dbe 83f1 9675"),
  (0xf95a, 0xf968, "8b80 62cf 6a02 8afe 4e39 5be7 6012 7387 7570 5317 78fb 4fbf 5fa9 4e0d 6ccc"),
  (0xf969, 0xf977, "6578 7d22 53c3 585e 7701 8449 8aaa 6bba 8fb0 6c88 62fe 82e5 63a0 7565 4eae"),
  (0xf978, 0xf986, "5169 51c9 6881 7ce7 826f 8ad2 91cf 52f5 5442 5973 5eec 65c5 6ffe 792a 95ad"),
  (0xf987, 0xf995, "9a6a 9e97 9ece 529b 66c6 6b77 8f62 5e74 6190 6200 649a 6f23 7149 7489 79ca"),
  (0xf996, 0xf9a4, "7df4 806f 8f26 84ee 9023 934a 5217 52a3 54bd 70c8 88c2 8aaa 5ec9 5ff5 637b"),
  (0xf9a5, 0xf9b3, "6bae 7c3e 7375 4ee4 56f9 5be7 5dba 601c 73b2 7469 7f9a 8046 9234 96f6 9748"),
  (0xf9b4, 0xf9c2, "9818 4f8b 79ae 91b4 96b8 60e1 4e86 50da 5bee 5c3f 6599 6a02 71ce 7642 84fc"),
  (0xf9c3, 0xf9d1, "907c 9f8d 6688 962e 5289 677b 67f3 6d41 6e9c 7409 7559 786b 7d10 985e 516d"),
  (0xf9d2, 0xf9e0, "622e 9678 502b 5d19 6dea 8f2a 5f8b 6144 6817 7387 9686 5229 540f 5c65 6613"),
  (0xf9e1, 0xf9ef, "674e 68a8 6ce5 7406 75e2 7f79 88cf 88e1 91cc 96e2 533f 6eba 541d 71d0 7498"),
  (0xf9f0, 0xf9fe, "85fa 96a3 9c57 9e9f 6797 6dcb 81e8 7acb 7b20 7c92 72c0 7099 8b58 4ec0 8336"),
  (0xf9ff, 0xfa0d, "523a 5207 5ea6 62d3 7cd6 5b85 6d1e 66b4 8f3b 884c 964d 898b 5ed3 5140 55c0"),
  (0xfa10, 0xfa20, "585a . 6674 . . 51de 732a 76ca 793c 795e 7965 798f 9756 7cbe 7fbd . 8612"),
  (0xfa22, 0xfa26, "8af8 . . 9038 90fd"),
  (0xfa2a, 0xfa39, "98ef 98fc 9928 9db4 . . 4fae 50e7 514d 52c9 52e4 5351 559d 5606 5668 5840"),
  (0xfa3a, 0xfa48, "58a8 5c64 5c6e 6094 6168 618e 61f2 654f 65e2 6691 6885 6d77 6e1a 6f22 716e"),
  (0xfa49, 0xfa57, "722b 7422 7891 793e 7949 7948 7950 7956 795d 798d 798e 7a40 7a81 7bc0 7df4"),
  (0xfa58, 0xfa66, "7e09 7e41 7f72 8005 81ed 8279 8279 8457 8910 8996 8b01 8b39 8cd3 8d08 8fb6"),
  (0xfa67, 0xfa6a, "9038 96e3 97ff 983b"),
  (0xfb00, 0xfb06, "66+66 66+69 66+6c 66+66+69 66+66+6c 73+74 73+74"),
  (0xfb13, 0xfb17, "574+576 574+565 574+56b 57e+576 574+56d"),
  (0xfb1d, 0xfb2b, "5d9+5b4 . 5f2+5b7 5e2 5d0 5d3 5d4 5db 5dc 5dd 5e8 5ea 2b 5e9+5c1 5e9+5c2"),
  (0xfb2c, 0xfb33, "5e9+5bc+5c1 5e9+5bc+5c2 5d0+5b7 5d0+5b8 5d0+5bc 5d1+5bc 5d2+5bc 5d3+5bc"),
  (0xfb34, 0xfb3c, "5d4+5bc 5d5+5bc 5d6+5bc . 5d8+5bc 5d9+5bc 5da+5bc 5db+5bc 5dc+5bc"),
  (0xfb3e, 0xfb48, "5de+5bc . 5e0+5bc 5e1+5bc . 5e3+5bc 5e4+5bc . 5e6+5bc 5e7+5bc 5e8+5bc"),
  (0xfb49, 0xfb53, "5e9+5bc 5ea+5bc 5d5+5b9 5d1+5bf 5db+5bf 5e4+5bf 5d0+5dc 671 671 67b 67b"),
  (0xfb54, 0xfb65, "67b 67b 67e 67e 67e 67e 680 680 680 680 67a 67a 67a 67a 67f 67f 67f 67f"),
  (0xfb66, 0xfb77, "679 679 679 679 6a4 6a4 6a4 6a4 6a6 6a6 6a6 6a6 684 684 684 684 683 683"),
  (0xfb78, 0xfb89, "683 683 686 686 686 686 687 687 687 687 68d 68d 68c 68c 68e 68e 688 688"),
  (0xfb8a, 0xfb9b, "698 698 691 691 6a9 6a9 6a9 6a9 6af 6af 6af 6af 6b3 6b3 6b3 6b3 6b1 6b1"),
  (0xfb9c, 0xfbab, "6b1 6b1 6ba 6ba 6bb 6bb 6bb 6bb 6d5+654 6d5+654 6c1 6c1 6c1 6c1 6be 6be"),
  (0xfbac, 0xfbb1, "6be 6be 6d2 6d2 6d2+654 6d2+654"),
  (0xfbd3, 0xfbe3, "6ad 6ad 6ad 6ad 6c7 6c7 6c6 6c6 6c8 6c8 6c7+674 6cb 6cb 6c5 6c5 6c9 6c9"),
  (0xfbe4, 0xfbed, "6d0 6d0 6d0 6d0 649 649 64a+654+627 64a+654+627 64a+654+6d5 64a+654+6d5"),
  (0xfbee, 0xfbf3, "64a+654+648 64a+654+648 64a+654+6c7 64a+654+6c7 64a+654+6c6 64a+654+6c6"),
  (0xfbf4, 0xfbf9, "64a+654+6c8 64a+654+6c8 64a+654+6d0 64a+654+6d0 64a+654+6d0 64a+654+649"),
  (0xfbfa, 0xfc01, "64a+654+649 64a+654+649 6cc 6cc 6cc 6cc 64a+654+62c 64a+654+62d"),
  (0xfc02, 0xfc08, "64a+654+645 64a+654+649 64a+654+64a 628+62c 628+62d 628+62e 628+645"),
  (0xfc09, 0xfc11, "628+649 628+64a 62a+62c 62a+62d 62a+62e 62a+645 62a+649 62a+64a 62b+62c"),
  (0xfc12, 0xfc1a, "62b+645 62b+649 62b+64a 62c+62d 62c+645 62d+62c 62d+645 62e+62c 62e+62d"),
  (0xfc1b, 0xfc23, "62e+645 633+62c 633+62d 633+62e 633+645 635+62d 635+645 636+62c 636+62d"),
  (0xfc24, 0xfc2c, "636+62e 636+645 637+62d 637+645 638+645 639+62c 639+645 63a+62c 63a+645"),
  (0xfc2d, 0xfc35, "641+62c 641+62d 641+62e 641+645 641+649 641+64a 642+62d 642+645 642+649"),
  (0xfc36, 0xfc3e, "642+64a 643+627 643+62c 643+62d 643+62e 643+644 643+645 643+649 643+64a"),
  (0xfc3f, 0xfc47, "644+62c 644+62d 644+62e 644+645 644+649 644+64a 645+62c 645+62d 645+62e"),
  (0xfc48, 0xfc50, "645+645 645+649 645+64a 646+62c 646+62d 646+62e 646+645 646+649 646+64a"),
  (0xfc51, 0xfc59, "647+62c 647+645 647+649 647+64a 64a+62c 64a+62d 64a+62e 64a+645 64a+649"),
  (0xfc5a, 0xfc60, "64a+64a 630+670 631+670 649+670 20+64c+651 20+64d+651 20+64e+651"),
  (0xfc61, 0xfc66, "20+64f+651 20+650+651 20+651+670 64a+654+631 64a+654+632 64a+654+645"),
  (0xfc67, 0xfc6d, "64a+654+646 64a+654+649 64a+654+64a 628+631 628+632 628+645 628+646"),
  (0xfc6e, 0xfc76, "628+649 628+64a 62a+631 62a+632 62a+645 62a+646 62a+649 62a+64a 62b+631"),
  (0xfc77, 0xfc7f, "62b+632 62b+645 62b+646 62b+649 62b+64a 641+649 641+64a 642+649 642+64a"),
  (0xfc80, 0xfc88, "643+627 643+644 643+645 643+649 643+64a 644+645 644+649 644+64a 645+627"),
  (0xfc89, 0xfc91, "645+645 646+631 646+632 646+645 646+646 646+649 646+64a 649+670 64a+631"),
  (0xfc92, 0xfc98, "64a+632 64a+645 64a+646 64a+649 64a+64a 64a+654+62c 64a+654+62d"),
  (0xfc99, 0xfc9f, "64a+654+62e 64a+654+645 64a+654+647 628+62c 628+62d 628+62e 628+645"),
  (0xfca0, 0xfca8, "628+647 62a+62c 62a+62d 62a+62e 62a+645 62a+647 62b+645 62c+62d 62c+645"),
  (0xfca9, 0xfcb1, "62d+62c 62d+645 62e+62c 62e+645 633+62c 633+62d 633+62e 633+645 635+62d"),
  (0xfcb2, 0xfcba, "635+62e 635+645 636+62c 636+62d 636+62e 636+645 637+62d 638+645 639+62c"),
  (0xfcbb, 0xfcc3, "639+645 63a+62c 63a+645 641+62c 641+62d 641+62e 641+645 642+62d 642+645"),
  (0xfcc4, 0xfccc, "643+62c 643+62d 643+62e 643+644 643+645 644+62c 644+62d 644+62e 644+645"),
  (0xfccd, 0xfcd5, "644+647 645+62c 645+62d 645+62e 645+645 646+62c 646+62d 646+62e 646+645"),
  (0xfcd6, 0xfcde, "646+647 647+62c 647+645 647+670 64a+62c 64a+62d 64a+62e 64a+645 64a+647"),
  (0xfcdf, 0xfce6, "64a+654+645 64a+654+647 628+645 628+647 62a+645 62a+647 62b+645 62b+647"),
  (0xfce7, 0xfcef, "633+645 633+647 634+645 634+647 643+644 643+645 644+645 646+645 646+647"),
  (0xfcf0, 0xfcf6, "64a+645 64a+647 640+64e+651 640+64f+651 640+650+651 637+649 637+64a"),
  (0xfcf7, 0xfcff, "639+649 639+64a 63a+649 63a+64a 633+649 633+64a 634+649 634+64a 62d+649"),
  (0xfd00, 0xfd08, "62d+64a 62c+649 62c+64a 62e+649 62e+64a 635+649 635+64a 636+649 636+64a"),
  (0xfd09, 0xfd11, "634+62c 634+62d 634+62e 634+645 634+631 633+631 635+631 636+631 637+649"),
  (0xfd12, 0xfd1a, "637+64a 639+649 639+64a 63a+649 63a+64a 633+649 633+64a 634+649 634+64a"),
  (0xfd1b, 0xfd23, "62d+649 62d+64a 62c+649 62c+64a 62e+649 62e+64a 635+649 635+64a 636+649"),
  (0xfd24, 0xfd2c, "636+64a 634+62c 634+62d 634+62e 634+645 634+631 633+631 635+631 636+631"),
  (0xfd2d, 0xfd35, "634+62c 634+62d 634+62e 634+645 633+647 634+647 637+645 633+62c 633+62d"),
  (0xfd36, 0xfd3d, "633+62e 634+62c 634+62d 634+62e 637+645 638+645 627+64b 627+64b"),
  (0xfd50, 0xfd55, "62a+62c+645 62a+62d+62c 62a+62d+62c 62a+62d+645 62a+62e+645 62a+645+62c"),
  (0xfd56, 0xfd5b, "62a+645+62d 62a+645+62e 62c+645+62d 62c+645+62d 62d+645+64a 62d+645+649"),
  (0xfd5c, 0xfd61, "633+62d+62c 633+62c+62d 633+62c+649 633+645+62d 633+645+62d 633+645+62c"),
  (0xfd62, 0xfd67, "633+645+645 633+645+645 635+62d+62d 635+62d+62d 635+645+645 634+62d+645"),
  (0xfd68, 0xfd6d, "634+62d+645 634+62c+64a 634+645+62e 634+645+62e 634+645+645 634+645+645"),
  (0xfd6e, 0xfd73, "636+62d+649 636+62e+645 636+62e+645 637+645+62d 637+645+62d 637+645+645"),
  (0xfd74, 0xfd79, "637+645+64a 639+62c+645 639+645+645 639+645+645 639+645+649 63a+645+645"),
  (0xfd7a, 0xfd7f, "63a+645+64a 63a+645+649 641+62e+645 641+62e+645 642+645+62d 642+645+645"),
  (0xfd80, 0xfd85, "644+62d+645 644+62d+64a 644+62d+649 644+62c+62c 644+62c+62c 644+62e+645"),
  (0xfd86, 0xfd8b, "644+62e+645 644+645+62d 644+645+62d 645+62d+62c 645+62d+645 645+62d+64a"),
  (0xfd8c, 0xfd92, "645+62c+62d 645+62c+645 645+62e+62c 645+62e+645 . . 645+62c+62e"),
  (0xfd93, 0xfd98, "647+645+62c 647+645+645 646+62d+645 646+62d+649 646+62c+645 646+62c+645"),
  (0xfd99, 0xfd9e, "646+62c+649 646+645+64a 646+645+649 64a+645+645 64a+645+645 628+62e+64a"),
  (0xfd9f, 0xfda4, "62a+62c+64a 62a+62c+649 62a+62e+64a 62a+62e+649 62a+645+64a 62a+645+649"),
  (0xfda5, 0xfdaa, "62c+645+64a 62c+62d+649 62c+645+649 633+62e+649 635+62d+64a 634+62d+64a"),
  (0xfdab, 0xfdb0, "636+62d+64a 644+62c+64a 644+645+64a 64a+62d+64a 64a+62c+64a 64a+645+64a"),
  (0xfdb1, 0xfdb6, "645+645+64a 642+645+64a 646+62d+64a 642+645+62d 644+62d+645 639+645+64a"),
  (0xfdb7, 0xfdbc, "643+645+64a 646+62c+62d 645+62e+64a 644+62c+645 643+645+645 644+62c+645"),
  (0xfdbd, 0xfdc2, "646+62c+62d 62c+62d+64a 62d+62c+64a 645+62c+64a 641+645+64a 628+62d+64a"),
  (0xfdc3, 0xfdc7, "643+645+645 639+62c+645 635+645+645 633+62e+64a 646+62c+64a"),
  (0xfdf0, 0xfdf4, "635+644+6d2 642+644+6d2 627+644+644+647 627+643+628+631 645+62d+645+62f"),
  (0xfdf5, 0xfdf8, "635+644+639+645 631+633+648+644 639+644+64a+647 648+633+644+645"),
  (0xfdf9, 0xfdf9, "635+644+649"),
  (0xfdfa, 0xfdfa, "635+644+649+20+627+644+644+647+20+639+644+64a+647+20+648+633+644+645"),
  (0xfdfb, 0xfdfc, "62c+644+20+62c+644+627+644+647 631+6cc+627+644"),
  (0xfe00, 0xfe0f, "- - - - - - - - - - - - - - - -"),
  (0xfe30, 0xfe40, "2e+2e 2014 2013 5f 5f 28 29 7b 7d 3014 3015 3010 3011 300a 300b 3008 3009"),
  (0xfe41, 0xfe44, "300c 300d 300e 300f"),
  (0xfe49, 0xfe5a, "20+305 20+305 20+305 20+305 5f 5f 5f 2c 3001 2e . 3b 3a 3f 21 2014 28 29"),
  (0xfe5b, 0xfe6b, "7b 7d 3014 3015 23 26 2a 2b 2d 3c 3e 3d . 5c 24 25 40"),
  (0xfe70, 0xfe7a, "20+64b 640+64b 20+64c . 20+64d . 20+64e 640+64e 20+64f 640+64f 20+650"),
  (0xfe7b, 0xfe84, "640+650 20+651 640+651 20+652 640+652 621 627+653 627+653 627+654 627+654"),
  (0xfe85, 0xfe8e, "648+654 648+654 627+655 627+655 64a+654 64a+654 64a+654 64a+654 627 627"),
  (0xfe8f, 0xfea0, "628 628 628 628 629 629 62a 62a 62a 62a 62b 62b 62b 62b 62c 62c 62c 62c"),
  (0xfea1, 0xfeb2, "62d 62d 62d 62d 62e 62e 62e 62e 62f 62f 630 630 631 631 632 632 633 633"),
  (0xfeb3, 0xfec4, "633 633 634 634 634 634 635 635 635 635 636 636 636 636 637 637 637 637"),
  (0xfec5, 0xfed6, "638 638 638 638 639 639 639 639 63a 63a 63a 63a 641 641 641 641 642 642"),
  (0xfed7, 0xfee8, "642 642 643 643 643 643 644 644 644 644 645 645 645 645 646 646 646 646"),
  (0xfee9, 0xfef6, "647 647 647 647 648 648 649 649 64a 64a 64a 64a 644+627+653 644+627+653"),
  (0xfef7, 0xff01, "644+627+654 644+627+654 644+627+655 644+627+655 644+627 644+627 . . - . 21"),
  (0xff02, 0xff1a, "22 23 24 25 26 27 28 29 2a 2b 2c 2d 2e 2f 30 31 32 33 34 35 36 37 38 39 3a"),
  (0xff1b, 0xff33, "3b 3c 3d 3e 3f 40 61 62 63 64 65 66 67 68 69 6a 6b 6c 6d 6e 6f 70 71 72 73"),
  (0xff34, 0xff4c, "74 75 76 77 78 79 7a 5b 5c 5d 5e 5f 60 61 62 63 64 65 66 67 68 69 6a 6b 6c"),
  (0xff4d, 0xff62, "6d 6e 6f 70 71 72 73 74 75 76 77 78 79 7a 7b 7c 7d 7e 2985 2986 3002 300c"),
  (0xff63, 0xff71, "300d 3001 30fb 30f2 30a1 30a3 30a5 30a7 30a9 30e3 30e5 30e7 30c3 30fc 30a2"),
  (0xff72, 0xff80, "30a4 30a6 30a8 30aa 30ab 30ad 30af 30b1 30b3 30b5 30b7 30b9 30bb 30bd 30bf"),
  (0xff81, 0xff8f, "30c1 30c4 30c6 30c8 30ca 30cb 30cc 30cd 30ce 30cf 30d2 30d5 30d8 30db 30de"),
  (0xff90, 0xff9e, "30df 30e0 30e1 30e2 30e4 30e6 30e8 30e9 30ea 30eb 30ec 30ed 30ef 30f3 3099"),
  (0xff9f, 0xffad, "309a 1160 1100 1101 11aa 1102 11ac 11ad 1103 1104 1105 11b0 11b1 11b2 11b3"),
  (0xffae, 0xffbc, "11b4 11b5 111a 1106 1107 1108 1121 1109 110a 110b 110c 110d 110e 110f 1110"),
  (0xffbd, 0xffbe, "1111 1112"),
  (0xffc2, 0xffd2, "1161 1162 1163 1164 1165 1166 . . 1167 1168 1169 116a 116b 116c . . 116d"),
  (0xffd3, 0xffdc, "116e 116f 1170 1171 1172 . . 1173 1174 1175"),
  (0xffe0, 0xffee, "a2 a3 ac 20+304 a6 a5 20a9 . 2502 2190 2191 2192 2193 25a0 25cb"),
  (0x10400, 0x1040b, "10428 10429 1042a 1042b 1042c 1042d 1042e 1042f 10430 10431 10432 10433"),
  (0x1040c, 0x10417, "10434 10435 10436 10437 10438 10439 1043a 1043b 1043c 1043d 1043e 1043f"),
  (0x10418, 0x10423, "10440 10441 10442 10443 10444 10445 10446 10447 10448 10449 1044a 1044b"),
  (0x10424, 0x10427, "1044c 1044d 1044e 1044f"),
  (0x104b0, 0x104bb, "104d8 104d9 104da 104db 104dc 104dd 104de 104df 104e0 104e1 104e2 104e3"),
  (0x104bc, 0x104c7, "104e4 104e5 104e6 104e7 104e8 104e9 104ea 104eb 104ec 104ed 104ee 104ef"),
  (0x104c8, 0x104d3, "104f0 104f1 104f2 104f3 104f4 104f5 104f6 104f7 104f8 104f9 104fa 104fb"),
  (0x10570, 0x1057c, "10597 10598 10599 1059a 1059b 1059c 1059d 1059e 1059f 105a0 105a1 . 105a3"),
  (0x1057d, 0x10588, "105a4 105a5 105a6 105a7 105a8 105a9 105aa 105ab 105ac 105ad 105ae 105af"),
  (0x10589, 0x10595, "105b0 105b1 . 105b3 105b4 105b5 105b6 105b7 105b8 105b9 . 105bb 105bc"),
  (0x10c80, 0x10c8b, "10cc0 10cc1 10cc2 10cc3 10cc4 10cc5 10cc6 10cc7 10cc8 10cc9 10cca 10ccb"),
  (0x10c8c, 0x10c97, "10ccc 10ccd 10cce 10ccf 10cd0 10cd1 10cd2 10cd3 10cd4 10cd5 10cd6 10cd7"),
  (0x10c98, 0x10ca3, "10cd8 10cd9 10cda 10cdb 10cdc 10cdd 10cde 10cdf 10ce0 10ce1 10ce2 10ce3"),
  (0x10ca4, 0x10caf, "10ce4 10ce5 10ce6 10ce7 10ce8 10ce9 10cea 10ceb 10cec 10ced 10cee 10cef"),
  (0x10cb0, 0x10cb2, "10cf0 10cf1 10cf2"),
  (0x118a0, 0x118ab, "118c0 118c1 118c2 118c3 118c4 118c5 118c6 118c7 118c8 118c9 118ca 118cb"),
  (0x118ac, 0x118b7, "118cc 118cd 118ce 118cf 118d0 118d1 118d2 118d3 118d4 118d5 118d6 118d7"),
  (0x118b8, 0x118bf, "118d8 118d9 118da 118db 118dc 118dd 118de 118df"),
  (0x16e40, 0x16e4b, "16e60 16e61 16e62 16e63 16e64 16e65 16e66 16e67 16e68 16e69 16e6a 16e6b"),
  (0x16e4c, 0x16e57, "16e6c 16e6d 16e6e 16e6f 16e70 16e71 16e72 16e73 16e74 16e75 16e76 16e77"),
  (0x16e58, 0x16e5f, "16e78 16e79 16e7a 16e7b 16e7c 16e7d 16e7e 16e7f"),
  (0x1d15e, 0x1d161, "1d157+1d165 1d158+1d165 1d158+1d165+1d16e 1d158+1d165+1d16f"),
  (0x1d162, 0x1d164, "1d158+1d165+1d170 1d158+1d165+1d171 1d158+1d165+1d172"),
  (0x1d1bb, 0x1d1be, "1d1b9+1d165 1d1ba+1d165 1d1b9+1d165+1d16e 1d1ba+1d165+1d16e"),
  (0x1d1bf, 0x1d1c0, "1d1b9+1d165+1d16f 1d1ba+1d165+1d16f"),
  (0x1d400, 0x1d418, "61 62 63 64 65 66 67 68 69 6a 6b 6c 6d 6e 6f 70 71 72 73 74 75 76 77 78 79"),
  (0x1d419, 0x1d431, "7a 61 62 63 64 65 66 67 68 69 6a 6b 6c 6d 6e 6f 70 71 72 73 74 75 76 77 78"),
  (0x1d432, 0x1d44a, "79 7a 61 62 63 64 65 66 67 68 69 6a 6b 6c 6d 6e 6f 70 71 72 73 74 75 76 77"),
  (0x1d44b, 0x1d463, "78 79 7a 61 62 63 64 65 66 67 . 69 6a 6b 6c 6d 6e 6f 70 71 72 73 74 75 76"),
  (0x1d464, 0x1d47c, "77 78 79 7a 61 62 63 64 65 66 67 68 69 6a 6b 6c 6d 6e 6f 70 71 72 73 74 75"),
  (0x1d47d, 0x1d495, "76 77 78 79 7a 61 62 63 64 65 66 67 68 69 6a 6b 6c 6d 6e 6f 70 71 72 73 74"),
  (0x1d496, 0x1d4b0, "75 76 77 78 79 7a 61 . 63 64 . . 67 . . 6a 6b . . 6e 6f 70 71 . 73 74 75"),
  (0x1d4b1, 0x1d4ca, "76 77 78 79 7a 61 62 63 64 . 66 . 68 69 6a 6b . 6d 6e . 70 71 72 73 74 75"),
  (0x1d4cb, 0x1d4e3, "76 77 78 79 7a 61 62 63 64 65 66 67 68 69 6a 6b 6c 6d 6e 6f 70 71 72 73 74"),
  (0x1d4e4, 0x1d4fc, "75 76 77 78 79 7a 61 62 63 64 65 66 67 68 69 6a 6b 6c 6d 6e 6f 70 71 72 73"),
  (0x1d4fd, 0x1d516, "74 75 76 77 78 79 7a 61 62 . 64 65 66 67 . . 6a 6b 6c 6d 6e 6f 70 71 . 73"),
  (0x1d517, 0x1d52f, "74 75 76 77 78 79 . 61 62 63 64 65 66 67 68 69 6a 6b 6c 6d 6e 6f 70 71 72"),
  (0x1d530, 0x1d546, "73 74 75 76 77 78 79 7a 61 62 . 64 65 66 67 . 69 6a 6b 6c 6d . 6f"),
  (0x1d54a, 0x1d562, "73 74 75 76 77 78 79 . 61 62 63 64 65 66 67 68 69 6a 6b 6c 6d 6e 6f 70 71"),
  (0x1d563, 0x1d57b, "72 73 74 75 76 77 78 79 7a 61 62 63 64 65 66 67 68 69 6a 6b 6c 6d 6e 6f 70"),
  (0x1d57c, 0x1d594, "71 72 73 74 75 76 77 78 79 7a 61 62 63 64 65 66 67 68 69 6a 6b 6c 6d 6e 6f"),
  (0x1d595, 0x1d5ad, "70 71 72 73 74 75 76 77 78 79 7a 61 62 63 64 65 66 67 68 69 6a 6b 6c 6d 6e"),
  (0x1d5ae, 0x1d5c6, "6f 70 71 72 73 74 75 76 77 78 79 7a 61 62 63 64 65 66 67 68 69 6a 6b 6c 6d"),
  (0x1d5c7, 0x1d5df, "6e 6f 70 71 72 73 74 75 76 77 78 79 7a 61 62 63 64 65 66 67 68 69 6a 6b 6c"),
  (0x1d5e0, 0x1d5f8, "6d 6e 6f 70 71 72 73 74 75 76 77 78 79 7a 61 62 63 64 65 66 67 68 69 6a 6b"),
  (0x1d5f9, 0x1d611, "6c 6d 6e 6f 70 71 72 73 74 75 76 77 78 79 7a 61 62 63 64 65 66 67 68 69 6a"),
  (0x1d612, 0x1d62a, "6b 6c 6d 6e 6f 70 71 72 73 74 75 76 77 78 79 7a 61 62 63 64 65 66 67 68 69"),
  (0x1d62b, 0x1d643, "6a 6b 6c 6d 6e 6f 70 71 72 73 74 75 76 77 78 79 7a 61 62 63 64 65 66 67 68"),
  (0x1d644, 0x1d65c, "69 6a 6b 6c 6d 6e 6f 70 71 72 73 74 75 76 77 78 79 7a 61 62 63 64 65 66 67"),
  (0x1d65d, 0x1d675, "68 69 6a 6b 6c 6d 6e 6f 70 71 72 73 74 75 76 77 78 79 7a 61 62 63 64 65 66"),
  (0x1d676, 0x1d68e, "67 68 69 6a 6b 6c 6d 6e 6f 70 71 72 73 74 75 76 77 78 79 7a 61 62 63 64 65"),
  (0x1d68f, 0x1d6a3, "66 67 68 69 6a 6b 6c 6d 6e 6f 70 71 72 73 74 75 76 77 78 79 7a"),
  (0x1d6a8, 0x1d6b9, "3b1 3b2 3b3 3b4 3b5 3b6 3b7 3b8 3b9 3ba 3bb 3bc 3bd 3be 3bf 3c0 3c1 3b8"),
  (0x1d6ba, 0x1d6cb, "3c3 3c4 3c5 3c6 3c7 3c8 3c9 2207 3b1 3b2 3b3 3b4 3b5 3b6 3b7 3b8 3b9 3ba"),
  (0x1d6cc, 0x1d6dd, "3bb 3bc 3bd 3be 3bf 3c0 3c1 3c3 3c3 3c4 3c5 3c6 3c7 3c8 3c9 2202 3b5 3b8"),
  (0x1d6de, 0x1d6ef, "3ba 3c6 3c1 3c0 3b1 3b2 3b3 3b4 3b5 3b6 3b7 3b8 3b9 3ba 3bb 3bc 3bd 3be"),
  (0x1d6f0, 0x1d701, "3bf 3c0 3c1 3b8 3c3 3c4 3c5 3c6 3c7 3c8 3c9 2207 3b1 3b2 3b3 3b4 3b5 3b6"),
  (0x1d702, 0x1d713, "3b7 3b8 3b9 3ba 3bb 3bc 3bd 3be 3bf 3c0 3c1 3c3 3c3 3c4 3c5 3c6 3c7 3c8"),
  (0x1d714, 0x1d725, "3c9 2202 3b5 3b8 3ba 3c6 3c1 3c0 3b1 3b2 3b3 3b4 3b5 3b6 3b7 3b8 3b9 3ba"),
  (0x1d726, 0x1d737, "3bb 3bc 3bd 3be 3bf 3c0 3c1 3b8 3c3 3c4 3c5 3c6 3c7 3c8 3c9 2207 3b1 3b2"),
  (0x1d738, 0x1d749, "3b3 3b4 3b5 3b6 3b7 3b8 3b9 3ba 3bb 3bc 3bd 3be 3bf 3c0 3c1 3c3 3c3 3c4"),
  (0x1d74a, 0x1d75b, "3c5 3c6 3c7 3c8 3c9 2202 3b5 3b8 3ba 3c6 3c1 3c0 3b1 3b2 3b3 3b4 3b5 3b6"),
  (0x1d75c, 0x1d76d, "3b7 3b8 3b9 3ba 3bb 3bc 3bd 3be 3bf 3c0 3c1 3b8 3c3 3c4 3c5 3c6 3c7 3c8"),
  (0x1d76e, 0x1d77f, "3c9 2207 3b1 3b2 3b3 3b4 3b5 3b6 3b7 3b8 3b9 3ba 3bb 3bc 3bd 3be 3bf 3c0"),
  (0x1d780, 0x1d791, "3c1 3c3 3c3 3c4 3c5 3c6 3c7 3c8 3c9 2202 3b5 3b8 3ba 3c6 3c1 3c0 3b1 3b2"),
  (0x1d792, 0x1d7a3, "3b3 3b4 3b5 3b6 3b7 3b8 3b9 3ba 3bb 3bc 3bd 3be 3bf 3c0 3c1 3b8 3c3 3c4"),
  (0x1d7a4, 0x1d7b5, "3c5 3c6 3c7 3c8 3c9 2207 3b1 3b2 3b3 3b4 3b5 3b6 3b7 3b8 3b9 3ba 3bb 3bc"),
  (0x1d7b6, 0x1d7c7, "3bd 3be 3bf 3c0 3c1 3c3 3c3 3c4 3c5 3c6 3c7 3c8 3c9 2202 3b5 3b8 3ba 3c6"),
  (0x1d7c8, 0x1d7c9, "3c1 3c0"),
  (0x1d7ce, 0x1d7e6, "30 31 32 33 34 35 36 37 38 39 30 31 32 33 34 35 36 37 38 39 30 31 32 33 34"),
  (0x1d7e7, 0x1d7ff, "35 36 37 38 39 30 31 32 33 34 35 36 37 38 39 30 31 32 33 34 35 36 37 38 39"),
  (0x1e900, 0x1e90b, "1e922 1e923 1e924 1e925 1e926 1e927 1e928 1e929 1e92a 1e92b 1e92c 1e92d"),
  (0x1e90c, 0x1e917, "1e92e 1e92f 1e930 1e931 1e932 1e933 1e934 1e935 1e936 1e937 1e938 1e939"),
  (0x1e918, 0x1e921, "1e93a 1e93b 1e93c 1e93d 1e93e 1e93f 1e940 1e941 1e942 1e943"),
  (0x2f800, 0x2f80d, "4e3d 4e38 4e41 20122 4f60 4fae 4fbb 5002 507a 5099 50e7 50cf 349e 2063a"),
  (0x2f80e, 0x2f81b, "514d 5154 5164 5177 2051c 34b9 5167 518d 2054b 5197 51a4 4ecc 51ac 51b5"),
  (0x2f81c, 0x2f829, "291df 51f5 5203 34df 523b 5246 5272 5277 3515 52c7 52c9 52e4 52fa 5305"),
  (0x2f82a, 0x2f837, "5306 5317 5349 5351 535a 5373 537d 537f 537f 537f 20a2c 7070 53ca 53df"),
  (0x2f838, 0x2f845, "20b63 53eb 53f1 5406 549e 5438 5448 5468 54a2 54f6 5510 5553 5563 5584"),
  (0x2f846, 0x2f854, "5584 5599 55ab 55b3 55c2 5716 5606 5717 5651 5674 5207 58ee 57ce 57f4 580d"),
  (0x2f855, 0x2f862, "578b 5832 5831 58ac 214e4 58f2 58f7 5906 591a 5922 5962 216a8 216ea 59ec"),
  (0x2f863, 0x2f870, "5a1b 5a27 59d8 5a66 36ee 2136a 5b08 5b3e 5b3e 219c8 5bc3 5bd8 5be7 5bf3"),
  (0x2f871, 0x2f87e, "21b18 5bff 5c06 5f33 5c22 3781 5c60 5c6e 5cc0 5c8d 21de4 5d43 21de6 5d6e"),
  (0x2f87f, 0x2f88c, "5d6b 5d7c 5de1 5de2 382f 5dfd 5e28 5e3d 5e69 3862 22183 387c 5eb0 5eb3"),
  (0x2f88d, 0x2f89a, "5eb6 5eca 2a392 5efe 22331 22331 8201 5f22 5f22 38c7 232b8 261da 5f62 5f6b"),
  (0x2f89b, 0x2f8a8, "38e3 5f9a 5fcd 5fd7 5ff9 6081 393a 391c 6094 226d4 60c7 6148 614c 614e"),
  (0x2f8a9, 0x2f8b7, "614c 617a 618e 61b2 61a4 61af 61de 61f2 61f6 6210 621b 625d 62b1 62d4 6350"),
  (0x2f8b8, 0x2f8c5, "22b0c 633d 62fc 6368 6383 63e4 22bf1 6422 63c5 63a9 3a2e 6469 647e 649d"),
  (0x2f8c6, 0x2f8d3, "6477 3a6c 654f 656c 2300a 65e3 66f8 6649 3b19 6691 3b08 3ae4 5192 5195"),
  (0x2f8d4, 0x2f8e1, "6700 669c 80ad 43d9 6717 671b 6721 675e 6753 233c3 3b49 67fa 6785 6852"),
  (0x2f8e2, 0x2f8ef, "6885 2346d 688e 681f 6914 3b9d 6942 69a3 69ea 6aa8 236a3 6adb 3c18 6b21"),
  (0x2f8f0, 0x2f8fd, "238a7 6b54 3c4e 6b72 6b9f 6bba 6bbb 23a8d 21d0b 23afa 6c4e 23cbc 6cbf 6ccd"),
  (0x2f8fe, 0x2f90b, "6c67 6d16 6d3e 6d77 6d41 6d69 6d78 6d85 23d1e 6d34 6e2f 6e6e 3d33 6ecb"),
  (0x2f90c, 0x2f919, "6ec7 23ed1 6df9 6f6e 23f5e 23f8e 6fc6 7039 701e 701b 3d96 704a 707d 7077"),
  (0x2f91a, 0x2f927, "70ad 20525 7145 24263 719c 43ab 7228 7235 7250 24608 7280 7295 24735 24814"),
  (0x2f928, 0x2f935, "737a 738b 3eac 73a5 3eb8 3eb8 7447 745c 7471 7485 74ca 3f1b 7524 24c36"),
  (0x2f936, 0x2f942, "753e 24c92 7570 2219f 7610 24fa1 24fb8 25044 3ffc 4008 76f4 250f3 250f2"),
  (0x2f943, 0x2f950, "25119 25133 771e 771f 771f 774a 4039 778b 4046 4096 2541d 784e 788c 78cc"),
  (0x2f951, 0x2f95d, "40e3 25626 7956 2569a 256c5 798f 79eb 412f 7a40 7a4a 7a4f 2597c 25aa7"),
  (0x2f95e, 0x2f96b, "25aa7 7aae 4202 25bab 7bc6 7bc9 4227 25c80 7cd2 42a0 7ce8 7ce3 7d00 25f86"),
  (0x2f96c, 0x2f979, "7d63 4301 7dc7 7e02 7e45 4334 26228 26247 4359 262d9 7f7a 2633e 7f95 7ffa"),
  (0x2f97a, 0x2f987, "8005 264da 26523 8060 265a8 8070 2335f 43d5 80b2 8103 440b 813e 5ab5 267a7"),
  (0x2f988, 0x2f995, "267b5 23393 2339c 8201 8204 8f9e 446b 8291 828b 829d 52b3 82b1 82b3 82bd"),
  (0x2f996, 0x2f9a3, "82e6 26b3c 82e5 831d 8363 83ad 8323 83bd 83e7 8457 8353 83ca 83cc 83dc"),
  (0x2f9a4, 0x2f9b0, "26c36 26d6b 26cd5 452b 84f1 84f3 8516 273ca 8564 26f2c 455d 4561 26fb1"),
  (0x2f9b1, 0x2f9be, "270d2 456b 8650 865c 8667 8669 86a9 8688 870e 86e2 8779 8728 876b 8786"),
  (0x2f9bf, 0x2f9cc, "4d57 87e1 8801 45f9 8860 8863 27667 88d7 88de 4635 88fa 34bb 278ae 27966"),
  (0x2f9cd, 0x2f9da, "46be 46c7 8aa0 8aed 8b8a 8c55 27ca8 8cab 8cc1 8d1b 8d77 27f2f 20804 8dcb"),
  (0x2f9db, 0x2f9e8, "8dbc 8df0 208de 8ed4 8f38 285d2 285ed 9094 90f1 9111 2872e 911b 9238 92d7"),
  (0x2f9e9, 0x2f9f6, "92d8 927c 93f9 9415 28bfa 958b 4995 95b7 28d77 49e6 96c3 5db2 9723 29145"),
  (0x2f9f7, 0x2fa04, "2921a 4a6e 4a76 97e0 2940a 4ab2 29496 980b 980b 9829 295b6 98e2 4b33 9929"),
  (0x2fa05, 0x2fa12, "99a7 99c2 99fe 4bce 29b30 9b12 9c40 9cfd 4cce 4ced 9d67 2a0ce 4cf8 2a105"),
  (0x2fa13, 0x2fa1d, "2a20e 2a291 9ebb 4d56 9ef9 9efe 9f05 9f0f 9f16 9f3b 2a600")]

end Netboot.Text.Nameprep
