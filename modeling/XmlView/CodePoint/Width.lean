import XmlView.CodePoint.Table
/-! How many terminal columns a code point takes: none for controls, nonspacing marks and a
few format characters, two for the wide characters of East Asian scripts and most emoji, one
otherwise (Unicode 14.0). -/
namespace XmlView.CodePoint

def zeroWidthTable : Array Nat := naturals
  (" ".intercalate
    ["0 20 7f a0 300 370 483 48a 591 5be 5bf 5c0 5c1 5c3 5c4 5c6 5c7 5c8 610 61b 64b 660",
     "670 671 6d6 6dd 6df 6e5 6e7 6e9 6ea 6ee 711 712 730 74b 7a6 7b1 7eb 7f4 7fd 7fe 816",
     "81a 81b 824 825 828 829 82e 859 85c 898 8a0 8ca 8e2 8e3 903 93a 93b 93c 93d 941 949",
     "94d 94e 951 958 962 964 981 982 9bc 9bd 9c1 9c5 9cd 9ce 9e2 9e4 9fe 9ff a01 a03 a3c",
     "a3d a41 a43 a47 a49 a4b a4e a51 a52 a70 a72 a75 a76 a81 a83 abc abd ac1 ac6 ac7 ac9",
     "acd ace ae2 ae4 afa b00 b01 b02 b3c b3d b3f b40 b41 b45 b4d b4e b55 b57 b62 b64 b82",
     "b83 bc0 bc1 bcd bce c00 c01 c04 c05 c3c c3d c3e c41 c46 c49 c4a c4e c55 c57 c62 c64",
     "c81 c82 cbc cbd cbf cc0 cc6 cc7 ccc cce ce2 ce4 d00 d02 d3b d3d d41 d45 d4d d4e d62",
     "d64 d81 d82 dca dcb dd2 dd5 dd6 dd7 e31 e32 e34 e3b e47 e4f eb1 eb2 eb4 ebd ec8 ece",
     "f18 f1a f35 f36 f37 f38 f39 f3a f71 f7f f80 f85 f86 f88 f8d f98 f99 fbd fc6 fc7 102d",
     "1031 1032 1038 1039 103b 103d 103f 1058 105a 105e 1061 1071 1075 1082 1083 1085 1087",
     "108d 108e 109d 109e 135d 1360 1712 1715 1732 1734 1752 1754 1772 1774 17b4 17b6 17b7",
     "17be 17c6 17c7 17c9 17d4 17dd 17de 180b 180e 180f 1810 1885 1887 18a9 18aa 1920 1923",
     "1927 1929 1932 1933 1939 193c 1a17 1a19 1a1b 1a1c 1a56 1a57 1a58 1a5f 1a60 1a61 1a62",
     "1a63 1a65 1a6d 1a73 1a7d 1a7f 1a80 1ab0 1acf 1b00 1b04 1b34 1b35 1b36 1b3b 1b3c 1b3d",
     "1b42 1b43 1b6b 1b74 1b80 1b82 1ba2 1ba6 1ba8 1baa 1bab 1bae 1be6 1be7 1be8 1bea 1bed",
     "1bee 1bef 1bf2 1c2c 1c34 1c36 1c38 1cd0 1cd3 1cd4 1ce1 1ce2 1ce9 1ced 1cee 1cf4 1cf5",
     "1cf8 1cfa 1dc0 1e00 200b 2010 2028 202f 2060 2064 20d0 20f1 2cef 2cf2 2d7f 2d80 2de0",
     "2e00 302a 302e 3099 309b a66f a673 a674 a67e a69e a6a0 a6f0 a6f2 a802 a803 a806 a807",
     "a80b a80c a825 a827 a82c a82d a8c4 a8c6 a8e0 a8f2 a8ff a900 a926 a92e a947 a952 a980",
     "a983 a9b3 a9b4 a9b6 a9ba a9bc a9be a9e5 a9e6 aa29 aa2f aa31 aa33 aa35 aa37 aa43 aa44",
     "aa4c aa4d aa7c aa7d aab0 aab1 aab2 aab5 aab7 aab9 aabe aac0 aac1 aac2 aaec aaee aaf6",
     "aaf7 abe5 abe6 abe8 abe9 abed abee fb1e fb1f fe00 fe10 fe20 fe30 101fd 101fe 102e0",
     "102e1 10376 1037b 10a01 10a04 10a05 10a07 10a0c 10a10 10a38 10a3b 10a3f 10a40 10ae5",
     "10ae7 10d24 10d28 10eab 10ead 10f46 10f51 10f82 10f86 11001 11002 11038 11047 11070",
     "11071 11073 11075 1107f 11082 110b3 110b7 110b9 110bb 110c2 110c3 11100 11103 11127",
     "1112c 1112d 11135 11173 11174 11180 11182 111b6 111bf 111c9 111cd 111cf 111d0 1122f",
     "11232 11234 11235 11236 11238 1123e 1123f 112df 112e0 112e3 112eb 11300 11302 1133b",
     "1133d 11340 11341 11366 1136d 11370 11375 11438 11440 11442 11445 11446 11447 1145e",
     "1145f 114b3 114b9 114ba 114bb 114bf 114c1 114c2 114c4 115b2 115b6 115bc 115be 115bf",
     "115c1 115dc 115de 11633 1163b 1163d 1163e 1163f 11641 116ab 116ac 116ad 116ae 116b0",
     "116b6 116b7 116b8 1171d 11720 11722 11726 11727 1172c 1182f 11838 11839 1183b 1193b",
     "1193d 1193e 1193f 11943 11944 119d4 119d8 119da 119dc 119e0 119e1 11a01 11a0b 11a33",
     "11a39 11a3b 11a3f 11a47 11a48 11a51 11a57 11a59 11a5c 11a8a 11a97 11a98 11a9a 11c30",
     "11c37 11c38 11c3e 11c3f 11c40 11c92 11ca8 11caa 11cb1 11cb2 11cb4 11cb5 11cb7 11d31",
     "11d37 11d3a 11d3b 11d3c 11d3e 11d3f 11d46 11d47 11d48 11d90 11d92 11d95 11d96 11d97",
     "11d98 11ef3 11ef5 16af0 16af5 16b30 16b37 16f4f 16f50 16f8f 16f93 16fe4 16fe5 1bc9d",
     "1bc9f 1cf00 1cf2e 1cf30 1cf47 1d167 1d16a 1d17b 1d183 1d185 1d18c 1d1aa 1d1ae 1d242",
     "1d245 1da00 1da37 1da3b 1da6d 1da75 1da76 1da84 1da85 1da9b 1daa0 1daa1 1dab0 1e000",
     "1e007 1e008 1e019 1e01b 1e022 1e023 1e025 1e026 1e02b 1e130 1e137 1e2ae 1e2af 1e2ec",
     "1e2f0 1e8d0 1e8d7 1e944 1e94b e0100 e01f0"])

def wideTable : Array Nat := naturals
  (" ".intercalate
    ["1100 1160 231a 231c 2329 232b 23e9 23ed 23f0 23f1 23f3 23f4 25fd 25ff 2614 2616 2648",
     "2654 267f 2680 2693 2694 26a1 26a2 26aa 26ac 26bd 26bf 26c4 26c6 26ce 26cf 26d4 26d5",
     "26ea 26eb 26f2 26f4 26f5 26f6 26fa 26fb 26fd 26fe 2705 2706 270a 270c 2728 2729 274c",
     "274d 274e 274f 2753 2756 2757 2758 2795 2798 27b0 27b1 27bf 27c0 2b1b 2b1d 2b50 2b51",
     "2b55 2b56 2e80 2e9a 2e9b 2ef4 2f00 2fd6 2ff0 2ffc 3000 302a 302e 303f 3041 3097 309b",
     "3100 3105 3130 3131 318f 3190 31e4 31f0 321f 3220 3248 3250 4dc0 4e00 a48d a490 a4c7",
     "a960 a97d ac00 d7a4 f900 fb00 fe10 fe1a fe30 fe53 fe54 fe67 fe68 fe6c ff01 ff61 ffe0",
     "ffe7 16fe0 16fe4 16ff0 16ff2 17000 187f8 18800 18cd6 18d00 18d09 1aff0 1aff4 1aff5",
     "1affc 1affd 1afff 1b000 1b123 1b150 1b153 1b164 1b168 1b170 1b2fc 1f004 1f005 1f0cf",
     "1f0d0 1f18e 1f18f 1f191 1f19b 1f200 1f203 1f210 1f23c 1f240 1f249 1f250 1f252 1f260",
     "1f266 1f300 1f321 1f32d 1f336 1f337 1f37d 1f37e 1f394 1f3a0 1f3cb 1f3cf 1f3d4 1f3e0",
     "1f3f1 1f3f4 1f3f5 1f3f8 1f43f 1f440 1f441 1f442 1f4fd 1f4ff 1f53e 1f54b 1f54f 1f550",
     "1f568 1f57a 1f57b 1f595 1f597 1f5a4 1f5a5 1f5fb 1f650 1f680 1f6c6 1f6cc 1f6cd 1f6d0",
     "1f6d3 1f6d5 1f6d8 1f6dd 1f6e0 1f6eb 1f6ed 1f6f4 1f6fd 1f7e0 1f7ec 1f7f0 1f7f1 1f90c",
     "1f93b 1f93c 1f946 1f947 1fa00 1fa70 1fa75 1fa78 1fa7d 1fa80 1fa87 1fa90 1faad 1fab0",
     "1fabb 1fac0 1fac6 1fad0 1fada 1fae0 1fae8 1faf0 1faf7 20000 2fffe 30000 3fffe"])

def columns (p : Nat) : Nat :=
  if inRanges zeroWidthTable p then 0 else if inRanges wideTable p then 2 else 1

end XmlView.CodePoint
