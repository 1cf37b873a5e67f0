import ReleasePackaging.Text.Ranges

/-!
# Compatible forms

Names that Unicode counts as compatible have one form: every character is taken apart into its
compatible parts, the marks after a character are put in the order of their classes, and what can be
put together again is. The tables hold the characters of names, as Unicode 14 has them.
-/
namespace ReleasePackaging.Text

/-- The characters that have one compatible part: the distance of a run from the one before it, the
length of the run, and the part of its first character. -/
def singleParts : List String :=
  ["4q 0 2p b 0 qk 5 0 33 5h 0 37 8h 0 2w 1 0 h2 1 0 2y 1 0 36 1 0 hl 1 0 hn 1 0 ht 1 0 3b 1 0",
   "3d 14 0 gz 1 0 30 1 0 37 1 0 3c 1 0 id 2k 1 lc 2 0 lv 1d 0 jd j 0 53 21 0 qa 1 0 qg 1 0 px",
   "3 0 qu 1 0 qo q 0 qi 1 1 qp 2 0 pk 1 0 qd 4 0 pv 2kj 0 3bw 2eo 0 1t 1 0 5i 1 0 1u 2 1 1w 1",
   "0 b2 1 7 1z 2 0 27 1 0 f6 1 0 28 1 0 2a 1 1 2c 1 0 2f 1 0 2p 1 1 gg 1 0 5qa 1 0 2q 1 1 2s",
   "1 0 gp 1 1 gr 1 0 2v 2 0 2z 1 0 31 1 0 97 1 0 33 1 0 gk 1 1 5qu 1 0 34 1 1 38 1 0 5r1 1 0",
   "hb 1 0 3a 1 0 5r9 1 2 qa 1 1 qu 1 0 2x 1 0 36 1 1 39 1 1 qa 1 0 qp 1 1 qu e 0 u5 z 0 gi 1",
   "0 2r 1 0 gl 1 0 6o 1 0 gs 1 0 2u 1 0 gv 1 0 gx 1 0 h1 1 2 h4 1 0 5tn 1 0 il 1 0 h9 1 0 5tx",
   "1 0 in 1 0 hd 1 0 hc 1 3 he 1 0 hk 1 1 hu 1 0 bv 1 1 i1 1 0 5r0 1 1 i3 1 0 3e 1 2 i8 1 0",
   "qg e7 0 qh 4z 0 2x e 0 32 h 0 2p 1 0 2t 1 0 33 1 0 3c 1 0 gp 1 0 2w 1 3 2z 1 0 34 1 1 37",
   "2u 0 1v 5 0 b4 3 0 2v 1 0 20 1 0 20 1 0 20 1 0 2w 1 0 87 1 0 21 1 0 21 1 0 24 1 0 30 2 0",
   "26 4 2 28 1 0 2a 1 0 2a 7 0 2i 2 0 q1 2 0 2i 2 0 23 2 1 1u 2 0 2t 1 1 1x 2 0 25 1 0 33 1 3",
   "15c 1 0 2x 3 0 qo 1 0 qb 1 0 pf 1 0 ps 6 0 1w 1 1 2s 1 1 2x n 0 21 4 0 2e 5 0 2g 3 0 24 1",
   "1 1v 1 0 25 1 0 2x 4 0 3a 5 0 3c 3 0 30 1 1 2r 1 0 31 265 0 2y 1 0 2e 6q 0 8yp jt 0 gg1 1",
   "1 gg4 6v 1 3cw 1 0 3hm 1 0 3cy 1 1 3ho 1 2 3cz 1 5 3hs 1 0 3dm 1 2 3d2 1 0 3dt 1 9 3d5 1 k",
   "3fl 1 0 3fk 1 1 3dg 1 1 3if 1 0 3ik 1 0 3im 1 0 3ir 1 0 3iv 1 0 3ix 1 0 3do 1 0 3j1 1 0",
   "3j3 1 1 3dp 1 0 3ds 1 1 3du 1 0 3dz 1 0 3e1 1 4 3e3 1 0 3ea 1 0 3ee 1 0 3eo 1 0 3ev 1 0",
   "3f0 1 1 3jl 1 2 3fb 1 1 3gk 1 0 3go 1 1 3gx 1 0 3h0 1 0 3ha 1 0 3hd n4e 0 ui 1 0 uk 5v 0",
   "x2n 3m 0 1v 1 0 1y 1 0 29 4 0 86 1 0 9f o3 0 x0n 1 0 xtj 1 0 h7 1 0 xua a 0 i5 fbr 0 rpk 1",
   "0 kc4 1 0 s7e 1 0 rt4 1 0 lw1 1 0 fg2 1 0 gkl 1 0 vj0 1 0 vj0 1 0 hn5 1 0 ssx 1 0 gw7 1 0",
   "hmw 1 0 jcm 1 0 ne1 1 0 p6t 1 0 qin 1 0 qt6 1 0 r20 1 0 sjz 1 0 kxu 1 0 ljv 1 0 mah 1 0",
   "mvy 1 0 q4d 1 0 sq2 1 0 uep 1 0 fia 1 0 ghh 1 0 l50 1 0 mjf 1 0 qi5 1 0 v8e 1 0 ifk 1 0",
   "m3v 1 0 qfh 1 0 r50 1 0 jih 1 0 pnc 1 0 qvz 1 0 iq2 1 0 kd3 1 0 lm2 1 0 mpo 1 0 slq 1 0",
   "fpi 1 0 g53 1 0 gda 1 0 jwk 1 0 l3n 1 0 mj4 1 0 nhj 1 0 pa9 1 0 qh2 1 0 qjg 1 0 s1b 1 0",
   "tv6 1 0 upb 1 0 v7e 1 0 nt8 1 0 nzz 1 0 otc 1 0 q15 1 0 t1g 1 0 vb3 1 0 rfa 1 0 hjz 1 0",
   "iro 1 0 okg 1 0 pdq 1 0 mle 1 0 nuy 1 0 rsy 1 0 ttj 1 0 hjs 1 0 i8y 1 0 kyb 1 0 lp6 1 0",
   "lxr 1 0 oq7 1 0 oxj 1 0 tor 1 0 gcy 1 0 pe3 1 0 g64 1 0 g5o 1 0 o4c 1 0 ou6 1 0 q29 1 0",
   "tpx 1 0 rk0 1 0 jin 1 0 kxu 1 0 rge 1 0 fg9 1 0 i5j 1 0 iz6 1 0 mtj 1 0 n74 1 0 gev 1 0",
   "nwb 1 0 fr3 1 0 iw9 1 0 ff1 1 0 lho 1 0 k1k 1 0 opu 1 0 gjn 1 0 hge 1 0 ni9 1 0 q4p 1 0",
   "re2 1 0 la2 1 0 sds 1 0 lfs 1 0 jjy 1 0 put 1 0 jog 1 0 n6t 1 0 fji 1 0 g2x 1 0 g5l 1 0",
   "kn5 1 0 oo7 1 0 prj 1 0 rf6 1 0 ssv 1 0 gdx 1 0 gn6 1 0 ho3 1 0 ir0 1 0 k3p 1 0 m4e 1 0",
   "nxm 1 0 tkd 1 0 ui2 1 0 vbr 1 0 vda 1 0 gbf 1 0 kau 1 0 l87 1 0 sbm 1 0 ino 1 0 j9s 1 0",
   "jcw 1 0 jve 1 0 lyb 1 0 mdl 1 0 n0p 1 0 o22 1 0 ovo 1 0 pdb 1 0 s9y 1 0 q9a 1 0 sgz 1 0",
   "t3e 1 0 g7r 1 0 gbn 1 0 gql 1 0 ma0 1 0 r0i 1 0 re2 1 0 iq1 1 0 iyd 1 0 jnf 1 0 l9q 1 0",
   "oji 1 0 mt1 1 0 fl0 1 0 h6h 1 0 i5j 1 0 iii 1 0 izg 1 0 muq 1 0 mzt 1 0 p7e 1 0 pc6 1 0",
   "svo 1 0 tti 1 0 tvs 1 0 u1k 1 0 fpn 1 0 o1a 1 0 ss4 1 0 trs 1 0 j4x 1 0 fie 1 0 fyy 1 0",
   "i5q 1 0 i7z 1 0 k2h 1 0 kxu 1 0 mha 1 0 ncy 1 0 q9o 1 0 sjg 1 0 vil 1 0 k94 1 0 tny 1 0",
   "gax 1 0 kfv 1 0 kj7 1 0 lkx 1 0 luk 1 0 mx5 1 0 n6h 1 0 nsb 1 0 opc 1 0 u3i 1 0 g31 1 0",
   "je6 1 0 tq0 1 0 fu3 1 0 ie1 1 0 lpm 1 0 sa2 1 0 ivf 1 0 j7o 1 0 kk7 1 0 mtj 1 0 tqe 1 0",
   "g89 1 0 glr 1 0 i91 1 0 k5v 1 0 kem 1 0 ko8 1 0 lid 1 0 mx2 1 0 naa 1 0 p6h 1 0 r0v 1 0",
   "r1d 1 0 sss 1 0 tsy 1 0 gfz 1 0 lve 1 0 gm5 1 0 mhc 1 0 n14 1 0 qgq 1 0 tr7 1 0 uvr 1 0",
   "vbz 1 0 kgn 1 0 lor 1 0 pns 1 0 o97 1 0 obk 1 0 olu 1 0 mo0 1 0 m8p 1 0 riw 1 0 fk0 1 0",
   "px2 1 0 g8q 1 0 g7b 1 0 ip2 1 0 jir 1 0 onq 1 0 i2t 1 0 ljy 1 0 kac 1 0 saj 1 0 qx8 1 0",
   "tot 1 0 r63 1 0 iqb 1 0 g1s 1 0 gxs 3 0 hga 2 0 k8k 3 0 g66 1 0 mqy 1 0 ngq 1 0 ny4 1 0",
   "nz2 1 0 nz9 1 0 o0f 1 0 tw6 1 0 on2 1 0 p8d 2 0 qhe 2 0 rg8 3 0 shk 1 0 sn1 4 0 u7j 1 0",
   "u7w 1 0 u94 1 0 v5g 1 0 sm6 1 0 trr 1 0 fqm 1 0 fzb 1 0 g25 1 0 gcp 1 0 gdg 1 0 ggh 1 0",
   "gwt 1 0 gzq 1 0 h2g 1 0 hfk 1 0 hig 1 0 i90 1 0 i9a 1 0 j2s 1 0 j8o 1 0 j9q 1 0 jci 1 0",
   "k0f 1 0 k4i 1 0 k9d 1 0 kn9 1 0 lmf 1 0 lqy 1 0 lya 1 0 mem 1 0 mjv 1 0 mxu 1 0 ntd 1 0",
   "ny6 1 0 nyh 1 0 nyg 1 0 nyo 1 0 nyu 1 0 nz1 1 1 o0d 1 0 o5c 1 0 o75 1 0 og0 1 0 ovo 1 0",
   "ow9 1 0 oxt 1 0 p6a 1 0 pad 1 0 pnx 1 0 prt 1 0 prt 1 0 q53 1 0 r2o 1 0 r6e 1 0 rgh 1 0",
   "ri1 1 0 rtf 1 0 ruw 1 0 sdy 1 0 shk 1 0 tsz 1 0 u0v 1 0 u2j 1 0 j1x 1 0 36cu 1 0 pp4 3 0",
   "ffq 1 0 g51 1 0 g2w 1 0 fpc 1 0 g1x 1 0 g3k 1 0 gcn 1 0 ge2 1 0 gwt 1 0 gut 1 0 gwp 1 0",
   "gyq 1 0 hga 1 0 hir 1 0 hms 1 0 hn8 1 0 huq 1 0 i08 1 0 iqa 1 0 iqh 1 0 iuh 1 0 iwd 1 0",
   "j4o 1 0 j7y 1 0 j60 1 0 j9q 1 0 j8g 1 0 jci 1 0 jec 1 0 jpg 1 0 jrw 1 0 jte 1 0 k0m 1 0",
   "k8k 1 0 kd3 1 0 kd7 1 0 keu 1 0 l89 1 0 la2 1 0 lkx 1 0 lwb 1 0 lvv 1 0 lya 1 0 m5a 1 0",
   "mem 1 0 nmv 1 0 mk5 1 0 mnj 1 0 mqy 1 0 n01 1 0 n46 1 0 n5n 1 0 nbx 1 0 nbz 1 0 ngq 1 0",
   "nh7 1 0 nhw 1 0 nka 1 0 nk0 1 0 nv0 1 0 o8h 1 0 og0 1 0 ol7 1 0 orf 1 0 ovo 1 0 p4u 1 0",
   "pad 1 0 pxu 1 0 q27 1 0 qrd 1 0 r41 1 0 r5y 1 0 r6e 1 0 ren 1 0 rg8 1 0 rez 1 0 rgh 1 0",
   "rge 1 0 rfx 1 0 ri1 1 0 rka 1 0 ruw 1 0 sag 1 0 sj6 1 0 srd 1 0 sxi 1 0 tq4 1 0 tsz 1 0",
   "tw6 1 0 tzv 1 0 u0v 1 0 u17 1 0 u2j 1 0 umq 1 0 vj0 1 0 313e 1 0 3138 1 0 33dh 1 0 brx 1 0",
   "cns 1 0 cop 1 0 39e1 1 0 3bgw 1 0 3i6r 1 0 vgj 1 0 vim 1z 0 15u 1 0 15c 1 1 15f 1 2 15n 1",
   "0 160 1 0 162 14 0 19t 1 0 19t 1 0 1a3 1 0 1a3 1 0 1a3 1 0 1a3 1 0 1a6 1 0 1a6 1 0 1a6 1 0",
   "1a6 1 0 1a8 1 0 1a8 1 0 1a8 1 0 1a8 1 0 1a2 1 0 1a2 1 0 1a2 1 0 1a2 1 0 1a7 1 0 1a7 1 0",
   "1a7 1 0 1a7 1 0 1a1 1 0 1a1 1 0 1a1 1 0 1a1 1 0 1b8 1 0 1b8 1 0 1b8 1 0 1b8 1 0 1ba 1 0",
   "1ba 1 0 1ba 1 0 1ba 1 0 1ac 1 0 1ac 1 0 1ac 1 0 1ac 1 0 1ab 1 0 1ab 1 0 1ab 1 0 1ab 1 0",
   "1ae 1 0 1ae 1 0 1ae 1 1 1ae 1 0 1af 1 0 1af 1 0 1af 1 0 1al 1 0 1al 1 0 1ak 1 0 1ak 1 0",
   "1am 1 0 1am 1 0 1ag 1 0 1ag 1 0 1aw 1 0 1aw 1 0 1ap 1 0 1ap 1 0 1bd 1 0 1bd 1 0 1bd 1 0",
   "1bd 1 0 1bj 1 0 1bj 1 0 1bj 1 0 1bj 1 0 1bn 1 0 1bn 1 0 1bn 1 0 1bn 1 0 1bl 1 0 1bl 1 0",
   "1bl 1 0 1bl 1 0 1bu 1 1 1bu 1 0 1bv 1 0 1bv 1 0 1bv 3 0 1c1 1 0 1c1 1 0 1c1 1 0 1c1 1 0",
   "1by 1 0 1by 1 0 1by 1 0 1by 1 0 1ci 1 0 1ci 10 0 1bh 1 0 1bh 1 0 1bh 1 0 1bh 1 0 1c7 1 0",
   "1c7 1 0 1c6 1 0 1c6 1 0 1c8 1 0 1c8 2 0 1cb 1 0 1cb 1 0 1c5 1 0 1c5 1 0 1c9 1 0 1c9 1 0",
   "1cg 1 0 1cg 1 0 1cg 1 0 1cg 1 0 18p 1 0 18p j 0 1cc 1 0 1cc 1 0 1cc 1 0 1cc fo 0 2n 1 0 2n",
   "p 0 2n 1 0 2n 1 0 2n 1d 0 17l d 0 17r 1 1 17r 1 0 17s 1 0 17s 1 1 17s 1 1 17t 1 0 17u 1 0",
   "17u 1 1 17u 1 0 17v 1 0 17v 1 1 17v 1 0 17w 1 0 17w 1 1 17w 1 0 17x 1 0 17x 1 1 17x 1 0",
   "17y 1 0 17y 1 1 17y 1 1 17z 1 1 180 1 1 181 1 1 182 1 0 183 1 0 183 1 1 183 1 0 184 1 0",
   "184 1 1 184 1 0 185 1 0 185 1 1 185 1 0 186 1 0 186 1 1 186 1 0 187 1 0 187 1 1 187 1 0",
   "188 1 0 188 1 1 188 1 0 189 1 0 189 1 1 189 1 0 18a 1 0 18a 1 0 18a 1 0 18h 1 0 18h 1 0",
   "18h 1 1 18h 1 0 18i 1 0 18i 1 1 18i 1 0 18j 1 0 18j 1 1 18j 1 0 18k 1 0 18k 1 1 18k 1 0",
   "18l 1 0 18l 1 1 18l 1 0 18m 1 0 18m 1 1 18m 1 0 18n 1 0 18n 1 1 18n 1 1 18o 1 1 18p 1 0",
   "18q 1 0 18q 1 0 18q s 9 1c 8 p 1t 5 0 2n 2 p 2p c 0 9o2 1 0 9lt 1 0 9lv 1 0 9lx 1 0 9lz 1",
   "0 9m1 1 0 9nn 1 0 9np 1 0 9nr 1 0 9mr 1 0 9oc 1 0 9lu 1 0 9lw 1 0 9ly 1 0 9m0 1 1 9m2 1 0",
   "9m5 1 0 9m7 1 0 9m9 1 0 9mb 1 0 9md 1 0 9mf 1 0 9mh 1 0 9mj 1 0 9ml 1 0 9mn 1 0 9mp 1 0",
   "9ms 1 0 9mu 1 0 9mw 1 5 9my 1 0 9n6 1 0 9n9 1 0 9nc 1 0 9nf 1 4 9ni 1 0 9no 1 0 9nq 1 5",
   "9ns 1 0 9nz 1 0 9o3 1 1 9ll 1 0 3fk 1 1 3cw 1 0 3hm 1 0 3cy 1 1 3ho 1 2 3cz 1 5 3hs 1 0",
   "3dm 1 2 3d2 1 0 3dt 1 9 3d5 4 5 3fl 3 5 3fr 3 5 3fx 3 2 3g3 1id 1 k0 1 0 6e 1 0 ih 1 0 gj",
   "2 0 ir 1 0 xuu 1 0 it 1 0 is 1 1 gm 1 0 5u9 1 0 go 1 0 gu 1 0 ix 1 0 h0 1 0 gy 1 0 gw 1 0",
   "ij 1 0 87 1 0 ik 1 0 h3 1 0 hw 1 1 iy 1 0 h8 1 0 2mmc 1 0 x3i 1 0 ha 1 0 2mmd 1 0 i6 1 0",
   "2mme 1 0 6w 1 1 hi 1 0 35 1 0 hm 1 0 2mmg 1 1 hp 1 0 hs 1 0 iw 1 0 iu 1 0 xuv 1 0 iv 1 0",
   "i0 1 0 8s1 2 0 i7 1 1 ip 1 0 ig 1 2 cg 1 0 2mmi 1 0 2mn2 14cm p 1t 1 p 2p 1 p 1t 1 6 2p 2",
   "h 2x 1 p 1t 1 p 2p 1 0 1t 2 1 1v 3 0 1z 3 1 22 3 3 26 2 7 2b 1 3 2p 2 0 2u 2 6 2w 2 a 34 1",
   "p 1t 1 p 2p 1 1 1t 2 3 1w 3 7 22 2 6 2b 2 p 2p 1 1 1t 2 3 1w 2 4 21 2 0 27 4 6 2b 2 p 2p 1",
   "p 1t 1 p 2p 1 p 1t 1 p 2p 1 p 1t 1 p 2p 1 p 1t 1 p 2p 1 p 1t 1 p 2p 1 p 1t 1 p 2p 1 0 8h 1",
   "0 fr 3 g pd 1 0 pk 1 6 pv 2 o q9 2 0 qd 1 0 qg 1 0 qi 1 0 qu 1 0 qp 1 0 qo 1 g pd 1 0 pk 1",
   "6 pv 2 o q9 2 0 qd 1 0 qg 1 0 qi 1 0 qu 1 0 qp 1 0 qo 1 g pd 1 0 pk 1 6 pv 2 o q9 2 0 qd 1",
   "0 qg 1 0 qi 1 0 qu 1 0 qp 1 0 qo 1 g pd 1 0 pk 1 6 pv 2 o q9 2 0 qd 1 0 qg 1 0 qi 1 0 qu 1",
   "0 qp 1 0 qo 1 g pd 1 0 pk 1 6 pv 2 o q9 2 0 qd 1 0 qg 1 0 qi 1 0 qu 1 0 qp 1 0 qo 1 1 rg 3",
   "9 1c 1 9 1c 1 9 1c 1 9 1c 1 9 1c 4ch 1 17r 1 0 17w 1 0 17z 2 0 18o 1 0 182 1 0 17x 1 0 187",
   "1 0 18q 1 3 18j 1 0 183 1 0 189 1 0 18h 1 0 185 1 0 18i 1 0 181 1 0 184 1 1 17u 1 0 17y 1",
   "0 180 1 0 186 1 0 188 1 0 18a 1 0 19q 1 0 1bu 1 0 1b5 1 0 19r 2 0 17s 1 0 17w 2 0 18n 3 0",
   "17x 2 0 18q 1 3 18j 1 0 183 1 0 189 1 0 18h 1 0 185 1 0 18i 2 0 184 1 1 17u 1 0 17y 2 0",
   "186 2 0 18a 7 0 17w 5 0 17x 2 0 18q 2 0 18k 2 0 18m 1 0 183 1 0 189 2 0 185 1 0 18i 2 0",
   "184 3 0 17y 2 0 186 2 0 18a 2 0 1bu 2 0 19r 2 0 17s 1 0 17w 2 0 18n 3 0 17x 1 0 187 1 0",
   "18q 1 0 18j 2 1 18l 1 0 183 1 0 189 1 0 18h 1 0 185 1 0 18i 2 0 184 1 1 17u 1 0 17y 2 0",
   "186 1 0 188 1 0 18a 1 0 19q 2 0 1b5 2 1 17r 1 0 17w 1 0 17z 1 1 18n 1 0 182 1 0 17x 1 0",
   "187 1 0 18q 2 2 18k 1 0 183 1 0 189 1 0 18h 1 0 185 1 0 18i 1 0 181 1 0 184 1 1 17u 1 0",
   "17y 1 0 180 1 0 186 1 0 188 1 0 18a 6 0 17s 1 0 17w 1 0 17z 2 0 18o 1 0 182 1 0 17x 1 0",
   "187 1 0 18q 2 2 18k 1 0 183 1 0 189 1 0 18h 1 0 185 1 0 18i 1 0 181 1 0 184 1 1 17u 1 0",
   "17y 1 0 180 1 0 186 1 0 188 1 0 18a 2lx 9 1c 1ds7 0 fgd 1 0 fg8 1 0 fgh 1 0 2tcy 1 0 fog 1",
   "0 fqm 1 0 fqz 1 0 fsy 1 0 fwa 1 0 fx5 1 0 fzb 1 0 fyn 1 0 ae6 1 0 2ud6 1 0 g25 1 0 g2c 1 0",
   "g2s 1 0 g3b 1 0 2u58 1 0 aex 1 0 g2v 1 0 g3x 1 0 2u6j 1 0 g47 1 0 g4k 1 0 fkc 1 0 g4s 1 0",
   "g51 1 0 3ly7 1 0 g6t 1 0 g77 1 0 afz 1 0 g8r 1 0 g92 1 0 gaa 1 0 gaf 1 0 ahh 1 0 gcn 1 0",
   "gcp 1 0 gdg 1 0 ge2 1 1 ged 1 0 gev 1 0 gg9 1 0 ggh 1 0 ggq 1 0 ghf 1 0 ghp 1 0 ghr 1 0",
   "ghr 1 0 ghr 1 0 2v58 1 0 m7k 1 0 gju 1 0 gkf 1 0 2vdv 1 0 gkr 1 0 gkx 1 0 gli 1 0 gpq 1 0",
   "gmw 1 0 gnc 1 0 go8 1 0 gpu 1 0 gs6 1 0 gsw 1 0 gur 1 0 gv7 1 0 gw4 1 0 gw4 1 0 gwp 1 0",
   "gx7 1 0 gxf 1 0 gxu 1 0 h7a 1 0 gzq 1 0 h7b 1 0 h1t 1 0 h2s 1 0 g7b 1 0 hke 1 0 hce 1 0",
   "hdg 1 0 he5 1 0 haj 1 0 hf6 1 0 hf5 1 0 hik 1 0 2x9g 1 0 hki 1 0 hkn 1 0 hl2 1 0 hlm 1 0",
   "hlu 1 0 hnm 1 0 2xm0 1 0 2xnu 1 0 hrg 1 0 hsr 1 0 ht3 1 0 hqw 1 0 huu 1 0 aum 1 0 av0 1 0",
   "hzc 1 0 i0u 1 0 i0u 1 0 2y88 1 0 i4j 1 0 i54 1 0 i5j 1 0 i5v 1 0 2yhk 1 0 i67 1 0 i6e 1 0",
   "itv 1 0 i76 1 0 ayp 1 0 i8w 1 0 i9a 1 0 ibk 1 0 ia5 1 0 2z1g 1 0 if7 1 0 2z1i 1 0 ige 1 0",
   "igb 1 0 igs 1 1 ijl 1 0 b3j 1 0 ikd 1 0 ilk 1 0 im5 1 0 ind 1 0 b4y 1 0 2zr7 1 0 b5o 1 0",
   "ipc 1 0 ipf 1 0 ipi 1 0 iq2 1 0 3pg2 1 0 iri 1 0 3035 1 0 3035 1 0 poh 1 0 isi 1 0 isi 1 0",
   "b7r 1 0 335k 1 0 3cgq 1 0 iua 1 0 iuj 1 0 b8j 1 0 ivu 1 0 ix9 1 0 ixj 1 0 iyh 1 0 j29 1 0",
   "bay 1 0 ba4 1 0 j2s 1 0 30t0 1 0 j47 1 0 j7s 1 0 j7w 1 0 j7y 1 0 j7w 1 0 j96 1 0 j9q 1 0",
   "jaq 1 0 jac 1 0 jan 1 0 jby 1 0 jci 1 0 jcm 1 0 jdc 1 0 jdn 1 0 jfh 1 0 jht 1 0 jis 1 0",
   "jm8 1 0 31n0 1 0 jlp 1 0 jjw 1 0 jmw 1 0 jnn 1 0 jqc 1 0 31td 1 0 js2 1 0 jph 1 0 jop 1 0",
   "bhq 1 0 ju1 1 0 jum 1 0 jvh 1 0 juf 1 0 bjg 1 0 k0f 1 0 k18 1 0 32mi 1 0 k4j 1 0 kc8 1 0",
   "k7d 1 0 bo9 1 0 k9d 1 0 bns 1 0 bms 1 0 g42 1 0 g45 1 0 kcg 1 0 k9o 1 0 pf1 1 0 deh 1 0",
   "kd3 1 0 kd7 1 0 kdd 1 0 kf2 1 0 ker 1 0 33cz 1 0 bpl 1 0 kje 1 0 kg5 1 0 klu 1 0 kn9 1 0",
   "33hp 1 0 kni 1 0 kkf 1 0 kr8 1 0 brx 1 0 ksi 1 0 kv7 1 0 kx6 1 0 l2g 1 0 33xf 1 0 l3v 1 0",
   "bvc 1 0 l5t 1 0 34br 1 0 l78 1 0 bwu 1 0 l82 1 0 l9b 1 1 la2 1 0 34p9 1 0 2yvf 1 0 34sa 1",
   "0 le6 1 0 354s 1 0 lhb 1 0 lhp 1 0 lev 1 0 ljq 1 0 lku 1 0 lmf 1 0 lkx 1 0 lm1 1 0 lmg 1 0",
   "lmt 1 0 357i 1 0 lkk 1 0 lrj 1 0 lta 1 0 c37 1 0 lvv 1 0 lvr 1 0 35jl 1 0 lq1 1 0 m0e 1 0",
   "35ni 1 0 35ou 1 0 m2u 1 0 m61 1 0 m5a 1 0 m57 1 0 c5y 1 0 m6i 1 0 m7x 1 0 m7r 1 0 m99 1 0",
   "2u5h 1 0 mdh 1 0 368z 1 0 mfw 1 0 36i3 1 0 mjs 1 0 mk5 1 0 mkw 1 0 36yw 1 0 mm8 1 0 mmt 1",
   "0 3779 1 0 37dg 1 0 mt6 1 0 mtn 1 0 cdo 1 0 mud 1 0 ce0 1 0 ce0 1 0 myv 1 0 mzg 1 0 n01 1",
   "0 n0l 1 0 n2i 1 0 cgr 1 0 n50 1 0 386u 1 0 n5q 1 0 389e 1 0 n74 1 0 2zrz 1 0 nbk 1 0 38v5",
   "1 0 38vs 1 0 38zo 1 0 cn0 1 0 cnc 1 0 nhw 1 0 394j 1 0 394i 1 0 395l 1 0 396b 1 1 nj2 1 0",
   "nj3 1 0 nka 1 0 cop 1 0 nm3 1 0 cp2 1 0 cra 1 0 39r1 1 0 nri 1 0 nt8 1 0 nv0 1 0 ctf 1 0",
   "3a5i 1 0 nyu 1 0 3a8q 1 0 3a9x 1 0 o0f 1 0 o2z 1 0 cvj 1 0 o5c 1 0 o5m 1 0 o5r 1 0 3at8 1",
   "0 3b1j 1 0 3b1j 1 0 oa6 1 0 d1e 1 0 3b8r 1 0 og6 1 0 og9 1 0 d2f 1 0 3beo 1 0 onm 1 0 d5s",
   "1 0 oo8 1 0 oo3 1 0 oow 1 0 3c06 1 0 orn 1 0 d8h 1 0 ouf 1 0 ow2 1 0 oxx 1 0 d9w 1 0 3ciw",
   "1 0 3cjr 1 0 dax 1 0 3cnt 1 0 p6i 1 0 3cqm 1 0 p79 1 0 pa2 1 0 pad 1 0 3d22 1 0 3d43 1 0",
   "pcw 1 0 3d7s 1 0 pdc 1 0 33a7 1 0 ded 1 0 pf6 1 0 phf 1 0 dfv 1 0 pj2 1 0 hx1 1 0 3dlz 1 0",
   "3dmd 1 0 33bn 1 0 33bw 1 0 poh 1 0 pok 1 0 sda 1 0 dij 1 0 psh 1 0 psb 1 0 pst 1 0 gc3 1 0",
   "ptd 1 0 ptf 1 0 ptp 1 0 puu 1 0 3ebg 1 0 put 1 0 pwd 1 0 pyb 1 0 q0d 1 0 pwj 1 0 q0t 1 0",
   "q1z 1 0 q53 1 0 pxv 1 0 q16 1 0 q18 1 0 q1o 1 0 3eie 1 0 3eqz 1 0 3emt 1 0 dnv 1 0 q9d 1 0",
   "q9f 1 0 qae 1 0 3g0a 1 0 qck 1 0 3f3g 1 0 dp9 1 0 dpd 1 0 3f75 1 0 3ff6 1 0 dpn 1 0 qj4 1",
   "0 qjg 1 0 qjr 1 0 qjt 1 0 qll 1 0 qko 1 0 qoe 1 0 qn6 1 0 qrd 1 0 qp4 1 0 qqz 1 0 qrq 1 0",
   "dsn 1 0 qu9 1 0 qv5 1 0 dtl 1 0 qxs 1 0 qxv 1 0 3giv 1 0 r13 1 0 r1a 1 0 dv9 1 0 r22 1 0",
   "aez 1 0 3gz2 1 0 3h46 1 0 dz2 1 0 dzb 1 0 rds 1 0 rfx 1 0 rka 1 0 rpx 1 0 3hrc 1 0 rsb 1 0",
   "rsx 1 0 rvf 1 0 rxz 1 0 3i9b 1 0 2upw 1 0 s0b 1 0 rzw 1 0 s1c 1 0 2uvy 1 0 s7o 1 0 sag 1 0",
   "3jki 1 0 3jl9 1 0 sk4 1 0 smp 1 0 snl 1 0 3ju6 1 0 snv 1 0 svs 1 1 t07 1 0 sxo 1 0 t89 1 0",
   "t91 1 0 3ksa 1 0 tjf 1 0 ej9 1 0 tkn 1 0 3l2v 1 0 eli 1 0 ts3 1 0 iia 1 0 tur 1 0 3ltx 1 0",
   "3lzu 1 0 epa 1 0 epi 1 0 u00 1 0 3mdm 1 0 er6 1 0 3mhi 1 0 u17 1 0 u17 1 0 u21 1 0 3mpi 1",
   "0 u76 1 0 eur 1 0 u95 1 0 ucn 1 0 ude 1 0 uf2 1 0 ez2 1 0 3nsg 1 0 umq 1 0 uv4 1 0 v0d 1 0",
   "f66 1 0 f71 1 0 v3b 1 0 3owe 1 0 f7c 1 0 3oxx 1 0 3p5a 1 0 3p8x 1 0 vcr 1 0 f9y 1 0 veh 1",
   "0 vem 1 0 vet 1 0 vf3 1 0 vfa 1 0 vgb 1 0 3pxc"]

/-- The characters that have several compatible parts: the distance of each from the one before it,
the number of its parts, and the parts. -/
def severalParts : List String :=
  ["5c 2 1t lc 1 2 1t ld 1 2 1t le 1 2 1t lf 1 2 1t lk 1 2 1t lm 2 2 1v mf 1 2 1x lc 1 2 1x ld",
   "1 2 1x le 1 2 1x lk 1 2 21 lc 1 2 21 ld 1 2 21 le 1 2 21 lk 2 2 26 lf 1 2 27 lc 1 2 27 ld",
   "1 2 27 le 1 2 27 lf 1 2 27 lk 3 2 2d lc 1 2 2d ld 1 2 2d le 1 2 2d lk 1 2 2h ld 3 2 2p lc",
   "1 2 2p ld 1 2 2p le 1 2 2p lf 1 2 2p lk 1 2 2p lm 2 2 2r mf 1 2 2t lc 1 2 2t ld 1 2 2t le",
   "1 2 2t lk 1 2 2x lc 1 2 2x ld 1 2 2x le 1 2 2x lk 2 2 32 lf 1 2 33 lc 1 2 33 ld 1 2 33 le",
   "1 2 33 lf 1 2 33 lk 3 2 39 lc 1 2 39 ld 1 2 39 le 1 2 39 lk 1 2 3d ld 2 2 3d lk 1 2 1t lg",
   "1 2 2p lg 1 2 1t li 1 2 2p li 1 2 1t mg 1 2 2p mg 1 2 1v ld 1 2 2r ld 1 2 1v le 1 2 2r le",
   "1 2 1v lj 1 2 2r lj 1 2 1v lo 1 2 2r lo 1 2 1w lo 1 2 2s lo 3 2 1x lg 1 2 2t lg 1 2 1x li",
   "1 2 2t li 1 2 1x lj 1 2 2t lj 1 2 1x mg 1 2 2t mg 1 2 1x lo 1 2 2t lo 1 2 1z le 1 2 2v le",
   "1 2 1z li 1 2 2v li 1 2 1z lj 1 2 2v lj 1 2 1z mf 1 2 2v mf 1 2 20 le 1 2 2w le 3 2 21 lf",
   "1 2 2x lf 1 2 21 lg 1 2 2x lg 1 2 21 li 1 2 2x li 1 2 21 mg 1 2 2x mg 1 2 21 lj 2 2 21 22",
   "1 2 2x 2y 1 2 22 le 1 2 2y le 1 2 23 mf 1 2 2z mf 2 2 24 ld 1 2 30 ld 1 2 24 mf 1 2 30 mf",
   "1 2 24 lo 1 2 30 lo 1 2 24 53 1 2 30 53 3 2 26 ld 1 2 32 ld 1 2 26 mf 1 2 32 mf 1 2 26 lo",
   "1 2 32 lo 1 2 jg 32 3 2 27 lg 1 2 33 lg 1 2 27 li 1 2 33 li 1 2 27 ln 1 2 33 ln 3 2 2a ld",
   "1 2 36 ld 1 2 2a mf 1 2 36 mf 1 2 2a lo 1 2 36 lo 1 2 2b ld 1 2 37 ld 1 2 2b le 1 2 37 le",
   "1 2 2b mf 1 2 37 mf 1 2 2b lo 1 2 37 lo 1 2 2c mf 1 2 38 mf 1 2 2c lo 1 2 38 lo 3 2 2d lf",
   "1 2 39 lf 1 2 2d lg 1 2 39 lg 1 2 2d li 1 2 39 li 1 2 2d lm 1 2 39 lm 1 2 2d ln 1 2 39 ln",
   "1 2 2d mg 1 2 39 mg 1 2 2f le 1 2 3b le 1 2 2h le 1 2 3d le 1 2 2h lk 1 2 2i ld 1 2 3e ld",
   "1 2 2i lj 1 2 3e lj 1 2 2i lo 1 2 3e lo y 2 27 m3 1 2 33 m3 e 2 2d m3 1 2 39 m3 k 3 1w 2i",
   "lo 1 3 1w 3e lo 1 3 2s 3e lo 1 2 24 22 1 2 24 2y 1 2 30 2y 1 2 26 22 1 2 26 2y 1 2 32 2y 1",
   "2 1t lo 1 2 2p lo 1 2 21 lo 1 2 2x lo 1 2 27 lo 1 2 33 lo 1 2 2d lo 1 2 39 lo 1 3 2d lk lg",
   "1 3 39 lk lg 1 3 2d lk ld 1 3 39 lk ld 1 3 2d lk lo 1 3 39 lk lo 1 3 2d lk lc 1 3 39 lk lc",
   "2 3 1t lk lg 1 3 2p lk lg 1 3 1t lj lg 1 3 2p lj lg 1 2 5i lg 1 2 6e lg 3 2 1z lo 1 2 2v",
   "lo 1 2 23 lo 1 2 2z lo 1 2 27 mg 1 2 33 mg 1 3 27 mg lg 1 3 33 mg lg 1 2 c7 lo 1 2 ia lo 1",
   "2 2y lo 1 2 1w 2i 1 2 1w 3e 1 2 2s 3e 1 2 1z ld 1 2 2v ld 3 2 26 lc 1 2 32 lc 1 3 1t lm ld",
   "1 3 2p lm ld 1 2 5i ld 1 2 6e ld 1 2 60 ld 1 2 6w ld 1 2 1t lr 1 2 2p lr 1 2 1t lt 1 2 2p",
   "lt 1 2 1x lr 1 2 2t lr 1 2 1x lt 1 2 2t lt 1 2 21 lr 1 2 2x lr 1 2 21 lt 1 2 2x lt 1 2 27",
   "lr 1 2 33 lr 1 2 27 lt 1 2 33 lt 1 2 2a lr 1 2 36 lr 1 2 2a lt 1 2 36 lt 1 2 2d lr 1 2 39",
   "lr 1 2 2d lt 1 2 39 lt 1 2 2b me 1 2 37 me 1 2 2c me 1 2 38 me 3 2 20 lo 1 2 2w lo 7 2 1t",
   "lj 1 2 2p lj 1 2 1x mf 1 2 2t mf 1 3 27 lk lg 1 3 33 lk lg 1 3 27 lf lg 1 3 33 lf lg 1 2",
   "27 lj 1 2 33 lj 1 3 27 lj lg 1 3 33 lj lg 1 2 2h lg 1 2 3d lg 7l 2 lk ld 1u 2 pd ld 2 2 ph",
   "ld 1 2 pj ld 1 2 pl ld 2 2 pr ld 2 2 px ld 1 2 q1 ld 1 3 qh lk ld q 2 pl lk 1 2 px lk 1 2",
   "q9 ld 1 2 qd ld 1 2 qf ld 1 2 qh ld 1 3 qt lk ld q 2 qh lk 1 2 qt lk 1 2 qn ld 1 2 qt ld 1",
   "2 qx ld 5 2 px ld 1 2 px lk 18 2 t1 lc 1 2 t1 lk 2 2 sz ld 4 2 sm lk 5 2 t6 ld 1 2 t4 lc 1",
   "2 tf li b 2 t4 li w 2 u0 li n 2 tx lc 1 2 tx lk 2 2 tv ld 4 2 uu lk 5 2 u2 ld 1 2 u0 lc 1",
   "2 ub li o 2 vo lr 1 2 vp lr 22 2 t2 li 1 2 ty li e 2 sw li 1 2 ts li 1 2 sw lk 1 2 ts lk 3",
   "2 t1 li 1 2 tx li 3 2 yg lk 1 2 yh lk 1 2 t2 lk 1 2 ty lk 1 2 t3 lk 1 2 tz lk 3 2 t4 lg 1",
   "2 u0 lg 1 2 t4 lk 1 2 u0 lk 1 2 ta lk 1 2 u6 lk 3 2 yw lk 1 2 yx lk 1 2 tp lk 1 2 ul lk 1",
   "2 tf lg 1 2 ub lg 1 2 tf lk 1 2 ub lk 1 2 tf ln 1 2 ub ln 1 2 tj lk 1 2 uf lk 3 2 tn lk 1",
   "2 uj lk 3y 2 12d 136 4b 2 17r 18z 1 2 17r 190 1 2 18o 190 1 2 17r 191 1 2 18q 190 27 2 17r",
   "19w 1 2 18o 19w 1 2 1c7 19w 1 2 18q 19w 20 2 1cl 190 2 2 1c1 190 h 2 1ci 190 gm 2 1t4 1to",
   "8 2 1tc 1to 3 2 1tf 1to 10 2 1sl 1to 1 2 1sm 1to 1 2 1sn 1to 1 2 1ss 1to 1 2 1sx 1to 1 2",
   "1sy 1to 1 2 1t7 1to 1 2 1tb 1to 30 2 1xj 1xa 1 2 1xj 1xz g 2 1wh 1x8 1 2 1wi 1x8 2 2 1wv",
   "1x8 2c 2 20i 20s 3 2 20o 20s z 2 1zq 20s 1 2 1zr 20s 1 2 1zw 20s 3 2 20b 20s 6i 2 287 28m",
   "3 2 287 27y 1 2 287 28n g 2 275 27w 1 2 276 27w 1j 2 2aa 2c7 1i 2 2bq 2bi 1 2 2br 2bi 1 2",
   "2bq 2c7 3g 2 2fa 2fq 3c 2 2in 2j9 7 2 2iu 2j9 1 2 2iu 2ja 2 2 2iu 2iq 1 3 2iu 2iq 2j9 3j 2",
   "2me 2m6 1 2 2mf 2m6 1 2 2me 2mv 3y 2 2qh 2q2 2 2 2qh 2q7 1 3 2qh 2q7 2q2 1 2 2qh 2qn 2d 2",
   "2tp 2sy 3k 2 2x9 2wi 15 2 2wb 2vt 1 2 2wb 2w1 2u 2 30i 33r a 2 30s 33r 5 2 30x 33r 5 2 312",
   "33r 5 2 317 33r d 2 30g 33p a 2 31t 31u 2 2 31t 31w 1 2 33m 328 1 3 33m 31t 328 1 2 33n",
   "328 1 3 33n 31t 328 8 2 31t 328 i 2 32q 33r a 2 330 33r 5 2 335 33r 5 2 33a 33r 5 2 33f",
   "33r d 2 32o 33p 31 2 36t 372 25c 2 5c5 5dh 2 2 5c7 5dh 2 2 5c9 5dh 2 2 5cb 5dh 2 2 5cd 5dh",
   "4 2 5ch 5dh 15 2 5dm 5dh 2 2 5do 5dh 3 2 5dq 5dh 1 2 5dr 5dh 2 2 5du 5dh jh 2 1t md 1 2 2p",
   "md 1 2 1u lj 1 2 2q lj 1 2 1u mb 1 2 2q mb 1 2 1u mp 1 2 2q mp 1 3 1v mf ld 1 3 2r mf ld 1",
   "2 1w lj 1 2 2s lj 1 2 1w mb 1 2 2s mb 1 2 1w mp 1 2 2s mp 1 2 1w mf 1 2 2s mf 1 2 1w ml 1",
   "2 2s ml 1 3 1x lg lc 1 3 2t lg lc 1 3 1x lg ld 1 3 2t lg ld 1 2 1x ml 1 2 2t ml 1 2 1x mo",
   "1 2 2t mo 1 3 1x mf li 1 3 2t mf li 1 2 1y lj 1 2 2u lj 1 2 1z lg 1 2 2v lg 1 2 20 lj 1 2",
   "2w lj 1 2 20 mb 1 2 2w mb 1 2 20 lk 1 2 2w lk 1 2 20 mf 1 2 2w mf 1 2 20 mm 1 2 2w mm 1 2",
   "21 mo 1 2 2x mo 1 3 21 lk ld 1 3 2x lk ld 1 2 23 ld 1 2 2z ld 1 2 23 mb 1 2 2z mb 1 2 23",
   "mp 1 2 2z mp 1 2 24 mb 1 2 30 mb 1 3 24 mb lg 1 3 30 mb lg 1 2 24 mp 1 2 30 mp 1 2 24 ml 1",
   "2 30 ml 1 2 25 ld 1 2 31 ld 1 2 25 lj 1 2 31 lj 1 2 25 mb 1 2 31 mb 1 2 26 lj 1 2 32 lj 1",
   "2 26 mb 1 2 32 mb 1 2 26 mp 1 2 32 mp 1 2 26 ml 1 2 32 ml 1 3 27 lf ld 1 3 33 lf ld 1 3 27",
   "lf lk 1 3 33 lf lk 1 3 27 lg lc 1 3 33 lg lc 1 3 27 lg ld 1 3 33 lg ld 1 2 28 ld 1 2 34 ld",
   "1 2 28 lj 1 2 34 lj 1 2 2a lj 1 2 36 lj 1 2 2a mb 1 2 36 mb 1 3 2a mb lg 1 3 36 mb lg 1 2",
   "2a mp 1 2 36 mp 1 2 2b lj 1 2 37 lj 1 2 2b mb 1 2 37 mb 1 3 2b ld lj 1 3 37 ld lj 1 3 2b",
   "lo lj 1 3 37 lo lj 1 3 2b mb lj 1 3 37 mb lj 1 2 2c lj 1 2 38 lj 1 2 2c mb 1 2 38 mb 1 2",
   "2c mp 1 2 38 mp 1 2 2c ml 1 2 38 ml 1 2 2d mc 1 2 39 mc 1 2 2d mo 1 2 39 mo 1 2 2d ml 1 2",
   "39 ml 1 3 2d lf ld 1 3 39 lf ld 1 3 2d lg lk 1 3 39 lg lk 1 2 2e lf 1 2 3a lf 1 2 2e mb 1",
   "2 3a mb 1 2 2f lc 1 2 3b lc 1 2 2f ld 1 2 3b ld 1 2 2f lk 1 2 3b lk 1 2 2f lj 1 2 3b lj 1",
   "2 2f mb 1 2 3b mb 1 2 2g lj 1 2 3c lj 1 2 2g lk 1 2 3c lk 1 2 2h lj 1 2 3d lj 1 2 2i le 1",
   "2 3e le 1 2 2i mb 1 2 3e mb 1 2 2i mp 1 2 3e mp 1 2 2w mp 1 2 38 lk 1 2 3b lm 1 2 3d lm 1",
   "2 2p ji 1 2 37 lj 5 2 1t mb 1 2 2p mb 1 2 1t ll 1 2 2p ll 1 3 1t le ld 1 3 2p le ld 1 3 1t",
   "le lc 1 3 2p le lc 1 3 1t le ll 1 3 2p le ll 1 3 1t le lf 1 3 2p le lf 1 3 1t mb le 1 3 2p",
   "mb le 1 3 1t li ld 1 3 2p li ld 1 3 1t li lc 1 3 2p li lc 1 3 1t li ll 1 3 2p li ll 1 3 1t",
   "li lf 1 3 2p li lf 1 3 1t mb li 1 3 2p mb li 1 2 1x mb 1 2 2t mb 1 2 1x ll 1 2 2t ll 1 2",
   "1x lf 1 2 2t lf 1 3 1x le ld 1 3 2t le ld 1 3 1x le lc 1 3 2t le lc 1 3 1x le ll 1 3 2t le",
   "ll 1 3 1x le lf 1 3 2t le lf 1 3 1x mb le 1 3 2t mb le 1 2 21 ll 1 2 2x ll 1 2 21 mb 1 2",
   "2x mb 1 2 27 mb 1 2 33 mb 1 2 27 ll 1 2 33 ll 1 3 27 le ld 1 3 33 le ld 1 3 27 le lc 1 3",
   "33 le lc 1 3 27 le ll 1 3 33 le ll 1 3 27 le lf 1 3 33 le lf 1 3 27 mb le 1 3 33 mb le 1 3",
   "27 m3 ld 1 3 33 m3 ld 1 3 27 m3 lc 1 3 33 m3 lc 1 3 27 m3 ll 1 3 33 m3 ll 1 3 27 m3 lf 1 3",
   "33 m3 lf 1 3 27 m3 mb 1 3 33 m3 mb 1 2 2d mb 1 2 39 mb 1 2 2d ll 1 2 39 ll 1 3 2d m3 ld 1",
   "3 39 m3 ld 1 3 2d m3 lc 1 3 39 m3 lc 1 3 2d m3 ll 1 3 39 m3 ll 1 3 2d m3 lf 1 3 39 m3 lf 1",
   "3 2d m3 mb 1 3 39 m3 mb 1 2 2h lc 1 2 3d lc 1 2 2h mb 1 2 3d mb 1 2 2h ll 1 2 3d ll 1 2 2h",
   "lf 1 2 3d lf 7 2 q9 lv 1 2 q9 lw 1 3 q9 lv lc 1 3 q9 lw lc 1 3 q9 lv ld 1 3 q9 lw ld 1 3",
   "q9 lv n6 1 3 q9 lw n6 1 2 pd lv 1 2 pd lw 1 3 pd lv lc 1 3 pd lw lc 1 3 pd lv ld 1 3 pd lw",
   "ld 1 3 pd lv n6 1 3 pd lw n6 1 2 qd lv 1 2 qd lw 1 3 qd lv lc 1 3 qd lw lc 1 3 qd lv ld 1",
   "3 qd lw ld 3 2 ph lv 1 2 ph lw 1 3 ph lv lc 1 3 ph lw lc 1 3 ph lv ld 1 3 ph lw ld 3 2 qf",
   "lv 1 2 qf lw 1 3 qf lv lc 1 3 qf lw lc 1 3 qf lv ld 1 3 qf lw ld 1 3 qf lv n6 1 3 qf lw n6",
   "1 2 pj lv 1 2 pj lw 1 3 pj lv lc 1 3 pj lw lc 1 3 pj lv ld 1 3 pj lw ld 1 3 pj lv n6 1 3",
   "pj lw n6 1 2 qh lv 1 2 qh lw 1 3 qh lv lc 1 3 qh lw lc 1 3 qh lv ld 1 3 qh lw ld 1 3 qh lv",
   "n6 1 3 qh lw n6 1 2 pl lv 1 2 pl lw 1 3 pl lv lc 1 3 pl lw lc 1 3 pl lv ld 1 3 pl lw ld 1",
   "3 pl lv n6 1 3 pl lw n6 1 2 qn lv 1 2 qn lw 1 3 qn lv lc 1 3 qn lw lc 1 3 qn lv ld 1 3 qn",
   "lw ld 3 2 pr lv 1 2 pr lw 1 3 pr lv lc 1 3 pr lw lc 1 3 pr lv ld 1 3 pr lw ld 3 2 qt lv 1",
   "2 qt lw 1 3 qt lv lc 1 3 qt lw lc 1 3 qt lv ld 1 3 qt lw ld 1 3 qt lv n6 1 3 qt lw n6 2 2",
   "px lw 2 3 px lw lc 2 3 px lw ld 2 3 px lw n6 1 2 qx lv 1 2 qx lw 1 3 qx lv lc 1 3 qx lw lc",
   "1 3 qx lv ld 1 3 qx lw ld 1 3 qx lv n6 1 3 qx lw n6 1 2 q1 lv 1 2 q1 lw 1 3 q1 lv lc 1 3",
   "q1 lw lc 1 3 q1 lv ld 1 3 q1 lw ld 1 3 q1 lv n6 1 3 q1 lw n6 1 2 q9 lc 1 2 q9 ld 1 2 qd lc",
   "1 2 qd ld 1 2 qf lc 1 2 qf ld 1 2 qh lc 1 2 qh ld 1 2 qn lc 1 2 qn ld 1 2 qt lc 1 2 qt ld",
   "1 2 qx lc 1 2 qx ld 3 3 q9 lv n9 1 3 q9 lw n9 1 4 q9 lv lc n9 1 4 q9 lw lc n9 1 4 q9 lv ld",
   "n9 1 4 q9 lw ld n9 1 4 q9 lv n6 n9 1 4 q9 lw n6 n9 1 3 pd lv n9 1 3 pd lw n9 1 4 pd lv lc",
   "n9 1 4 pd lw lc n9 1 4 pd lv ld n9 1 4 pd lw ld n9 1 4 pd lv n6 n9 1 4 pd lw n6 n9 1 3 qf",
   "lv n9 1 3 qf lw n9 1 4 qf lv lc n9 1 4 qf lw lc n9 1 4 qf lv ld n9 1 4 qf lw ld n9 1 4 qf",
   "lv n6 n9 1 4 qf lw n6 n9 1 3 pj lv n9 1 3 pj lw n9 1 4 pj lv lc n9 1 4 pj lw lc n9 1 4 pj",
   "lv ld n9 1 4 pj lw ld n9 1 4 pj lv n6 n9 1 4 pj lw n6 n9 1 3 qx lv n9 1 3 qx lw n9 1 4 qx",
   "lv lc n9 1 4 qx lw lc n9 1 4 qx lv ld n9 1 4 qx lw ld n9 1 4 qx lv n6 n9 1 4 qx lw n6 n9 1",
   "3 q1 lv n9 1 3 q1 lw n9 1 4 q1 lv lc n9 1 4 q1 lw lc n9 1 4 q1 lv ld n9 1 4 q1 lw ld n9 1",
   "4 q1 lv n6 n9 1 4 q1 lw n6 n9 1 2 q9 li 1 2 q9 lg 1 3 q9 lc n9 1 2 q9 n9 1 3 q9 ld n9 2 2",
   "q9 n6 1 3 q9 n6 n9 1 2 pd li 1 2 pd lg 1 2 pd lc 1 2 pd ld 1 2 pd n9 6 3 qf lc n9 1 2 qf",
   "n9 1 3 qf ld n9 2 2 qf n6 1 3 qf n6 n9 1 2 ph lc 1 2 ph ld 1 2 pj lc 1 2 pj ld 1 2 pj n9 4",
   "2 qh li 1 2 qh lg 1 3 qh lk lc 1 3 qh lk ld 3 2 qh n6 1 3 qh lk n6 1 2 pl li 1 2 pl lg 1 2",
   "pl lc 1 2 pl ld 5 2 qt li 1 2 qt lg 1 3 qt lk lc 1 3 qt lk ld 1 2 qp lv 1 2 qp lw 1 2 qt",
   "n6 1 3 qt lk n6 1 2 px li 1 2 px lg 1 2 px lc 1 2 px ld 1 2 pt lw 6 3 qx lc n9 1 2 qx n9 1",
   "3 qx ld n9 2 2 qx n6 1 3 qx n6 n9 1 2 pr lc 1 2 pr ld 1 2 q1 lc 1 2 q1 ld 1 2 q1 n9 8f 2",
   "1t lm 1i 2 21 21 1 3 21 21 21 1 2 21 2e 2 2 2e 21 1 3 2e 21 21 1 4 2e 21 21 21 1 2 21 2g 2",
   "2 2g 21 1 3 2g 21 21 6 2 2x 2x 1 3 2x 2x 2x 1 2 2x 3a 2 2 3a 2x 1 3 3a 2x 2x 1 4 3a 2x 2x",
   "2x 1 2 2x 3c 2 2 3c 2x 1 3 3c 2x 2x 2xd 2 9jf 9ll 2 2 9jh 9ll 2 2 9jj 9ll 2 2 9jl 9ll 2 2",
   "9jn 9ll 2 2 9jp 9ll 2 2 9jr 9ll 2 2 9jt 9ll 2 2 9jv 9ll 2 2 9jx 9ll 2 2 9jz 9ll 2 2 9k1",
   "9ll 3 2 9k4 9ll 2 2 9k6 9ll 2 2 9k8 9ll 7 2 9kf 9ll 1 2 9kf 9lm 2 2 9ki 9ll 1 2 9ki 9lm 2",
   "2 9kl 9ll 1 2 9kl 9lm 2 2 9ko 9ll 1 2 9ko 9lm 2 2 9kr 9ll 1 2 9kr 9lm n 2 9ja 9ll a 2 9lp",
   "9ll 1 2 9l4 9l6 d 2 9m3 9ll 2 2 9m5 9ll 2 2 9m7 9ll 2 2 9m9 9ll 2 2 9mb 9ll 2 2 9md 9ll 2",
   "2 9mf 9ll 2 2 9mh 9ll 2 2 9mj 9ll 2 2 9ml 9ll 2 2 9mn 9ll 2 2 9mp 9ll 3 2 9ms 9ll 2 2 9mu",
   "9ll 2 2 9mw 9ll 7 2 9n3 9ll 1 2 9n3 9lm 2 2 9n6 9ll 1 2 9n6 9lm 2 2 9n9 9ll 1 2 9n9 9lm 2",
   "2 9nc 9ll 1 2 9nc 9lm 2 2 9nf 9ll 1 2 9nf 9lm n 2 9ly 9ll 3 2 9nz 9ll 1 2 9o0 9ll 1 2 9o1",
   "9ll 1 2 9o2 9ll 4 2 9od 9ll 1 2 9mb 9mw 13wh 2 2u 2u 1 2 2u 2x 1 2 2u 30 1 3 2u 2u 2x 1 3",
   "2u 2u 30 1 2 37 38 1 2 37 38 d 2 12s 12u 1 2 12s 12d 1 2 12s 12j 1 2 132 12u 1 2 12s 12l 6",
   "2 15l 14k 2 2 16a 14n b 2 161 14x 1 2 161 14y 1 3 161 14s 14x 1 3 161 14s 14y 1 2 15c 14n",
   "1 2 15c 14o 1 2 15c 14s 1 2 15d 14s 1 2 15e 14s 1 2 15f 14s 1 2 15g 14s 1 2 15h 14s 1 2",
   "15i 14s 2 2 15k 14s 1 2 15l 14s 1 2 15m 14s 1 2 15n 14s 1 2 15o 14s 2 2 15q 14s 2 2 15s",
   "14s 1 2 15t 14s 2 2 15v 14s 1 2 15w 14s 2 2 15y 14s 1 2 15z 14s 1 2 160 14s 1 2 161 14s 1",
   "2 162 14s 1 2 15h 14p 1 2 15d 14v 1 2 15n 14v 1 2 15w 14v 1 2 15c 15o 2d 2 1cl 190 1 2 1cl",
   "190 b 2 1ci 190 1 2 1ci 190 18 2 1c7 19w d 3 18q 190 17r 1 3 18q 190 17r 1 3 18q 190 1cl 1",
   "3 18q 190 1cl 1 3 18q 190 18o 1 3 18q 190 18o 1 3 18q 190 1c7 1 3 18q 190 1c7 1 3 18q 190",
   "1c6 1 3 18q 190 1c6 1 3 18q 190 1c8 1 3 18q 190 1c8 1 3 18q 190 1cg 1 3 18q 190 1cg 1 3",
   "18q 190 1cg 1 3 18q 190 18p 1 3 18q 190 18p 1 3 18q 190 18p 5 3 18q 190 17w 1 3 18q 190",
   "17x 1 3 18q 190 18l 1 3 18q 190 18p 1 3 18q 190 18q 1 2 17s 17w 1 2 17s 17x 1 2 17s 17y 1",
   "2 17s 18l 1 2 17s 18p 1 2 17s 18q 1 2 17u 17w 1 2 17u 17x 1 2 17u 17y 1 2 17u 18l 1 2 17u",
   "18p 1 2 17u 18q 1 2 17v 17w 1 2 17v 18l 1 2 17v 18p 1 2 17v 18q 1 2 17w 17x 1 2 17w 18l 1",
   "2 17x 17w 1 2 17x 18l 1 2 17y 17w 1 2 17y 17x 1 2 17y 18l 1 2 183 17w 1 2 183 17x 1 2 183",
   "17y 1 2 183 18l 1 2 185 17x 1 2 185 18l 1 2 186 17w 1 2 186 17x 1 2 186 17y 1 2 186 18l 1",
   "2 187 17x 1 2 187 18l 1 2 188 18l 1 2 189 17w 1 2 189 18l 1 2 18a 17w 1 2 18a 18l 1 2 18h",
   "17w 1 2 18h 17x 1 2 18h 17y 1 2 18h 18l 1 2 18h 18p 1 2 18h 18q 1 2 18i 17x 1 2 18i 18l 1",
   "2 18i 18p 1 2 18i 18q 1 2 18j 17r 1 2 18j 17w 1 2 18j 17x 1 2 18j 17y 1 2 18j 18k 1 2 18j",
   "18l 1 2 18j 18p 1 2 18j 18q 1 2 18k 17w 1 2 18k 17x 1 2 18k 17y 1 2 18k 18l 1 2 18k 18p 1",
   "2 18k 18q 1 2 18l 17w 1 2 18l 17x 1 2 18l 17y 1 2 18l 18l 1 2 18l 18p 1 2 18l 18q 1 2 18m",
   "17w 1 2 18m 17x 1 2 18m 17y 1 2 18m 18l 1 2 18m 18p 1 2 18m 18q 1 2 18n 17w 1 2 18n 18l 1",
   "2 18n 18p 1 2 18n 18q 1 2 18q 17w 1 2 18q 17x 1 2 18q 17y 1 2 18q 18l 1 2 18q 18p 1 2 18q",
   "18q 1 2 180 19s 1 2 181 19s 1 2 18p 19s 7 3 18q 190 181 1 3 18q 190 182 1 3 18q 190 18l 1",
   "3 18q 190 18m 1 3 18q 190 18p 1 3 18q 190 18q 1 2 17s 181 1 2 17s 182 1 2 17s 18l 1 2 17s",
   "18m 1 2 17s 18p 1 2 17s 18q 1 2 17u 181 1 2 17u 182 1 2 17u 18l 1 2 17u 18m 1 2 17u 18p 1",
   "2 17u 18q 1 2 17v 181 1 2 17v 182 1 2 17v 18l 1 2 17v 18m 1 2 17v 18p 1 2 17v 18q 1 2 18h",
   "18p 1 2 18h 18q 1 2 18i 18p 1 2 18i 18q 1 2 18j 17r 1 2 18j 18k 1 2 18j 18l 1 2 18j 18p 1",
   "2 18j 18q 1 2 18k 18l 1 2 18k 18p 1 2 18k 18q 1 2 18l 17r 1 2 18l 18l 1 2 18m 181 1 2 18m",
   "182 1 2 18m 18l 1 2 18m 18m 1 2 18m 18p 1 2 18m 18q 1 2 18p 19s 1 2 18q 181 1 2 18q 182 1",
   "2 18q 18l 1 2 18q 18m 1 2 18q 18p 1 2 18q 18q 1 3 18q 190 17w 1 3 18q 190 17x 1 3 18q 190",
   "17y 1 3 18q 190 18l 1 3 18q 190 18n 1 2 17s 17w 1 2 17s 17x 1 2 17s 17y 1 2 17s 18l 1 2",
   "17s 18n 1 2 17u 17w 1 2 17u 17x 1 2 17u 17y 1 2 17u 18l 1 2 17u 18n 1 2 17v 18l 1 2 17w",
   "17x 1 2 17w 18l 1 2 17x 17w 1 2 17x 18l 1 2 17y 17w 1 2 17y 18l 1 2 183 17w 1 2 183 17x 1",
   "2 183 17y 1 2 183 18l 1 2 185 17x 1 2 185 17y 1 2 185 18l 1 2 186 17w 1 2 186 17x 1 2 186",
   "17y 1 2 186 18l 1 2 187 17x 1 2 188 18l 1 2 189 17w 1 2 189 18l 1 2 18a 17w 1 2 18a 18l 1",
   "2 18h 17w 1 2 18h 17x 1 2 18h 17y 1 2 18h 18l 1 2 18i 17x 1 2 18i 18l 1 2 18j 17w 1 2 18j",
   "17x 1 2 18j 17y 1 2 18j 18k 1 2 18j 18l 1 2 18k 17w 1 2 18k 17x 1 2 18k 17y 1 2 18k 18l 1",
   "2 18k 18n 1 2 18l 17w 1 2 18l 17x 1 2 18l 17y 1 2 18l 18l 1 2 18m 17w 1 2 18m 17x 1 2 18m",
   "17y 1 2 18m 18l 1 2 18m 18n 1 2 18n 17w 1 2 18n 18l 1 2 18n 19s 1 2 18q 17w 1 2 18q 17x 1",
   "2 18q 17y 1 2 18q 18l 1 2 18q 18n 1 3 18q 190 18l 1 3 18q 190 18n 1 2 17s 18l 1 2 17s 18n",
   "1 2 17u 18l 1 2 17u 18n 1 2 17v 18l 1 2 17v 18n 1 2 183 18l 1 2 183 18n 1 2 184 18l 1 2",
   "184 18n 1 2 18j 18k 1 2 18j 18l 1 2 18k 18l 1 2 18m 18l 1 2 18m 18n 1 2 18q 18l 1 2 18q",
   "18n 1 3 18g 18u 18x 1 3 18g 18v 18x 1 3 18g 18w 18x 1 2 187 18p 1 2 187 18q 1 2 189 18p 1",
   "2 189 18q 1 2 18a 18p 1 2 18a 18q 1 2 183 18p 1 2 183 18q 1 2 184 18p 1 2 184 18q 1 2 17x",
   "18p 1 2 17x 18q 1 2 17w 18p 1 2 17w 18q 1 2 17y 18p 1 2 17y 18q 1 2 185 18p 1 2 185 18q 1",
   "2 186 18p 1 2 186 18q 1 2 184 17w 1 2 184 17x 1 2 184 17y 1 2 184 18l 1 2 184 181 1 2 183",
   "181 1 2 185 181 1 2 186 181 1 2 187 18p 1 2 187 18q 1 2 189 18p 1 2 189 18q 1 2 18a 18p 1",
   "2 18a 18q 1 2 183 18p 1 2 183 18q 1 2 184 18p 1 2 184 18q 1 2 17x 18p 1 2 17x 18q 1 2 17w",
   "18p 1 2 17w 18q 1 2 17y 18p 1 2 17y 18q 1 2 185 18p 1 2 185 18q 1 2 186 18p 1 2 186 18q 1",
   "2 184 17w 1 2 184 17x 1 2 184 17y 1 2 184 18l 1 2 184 181 1 2 183 181 1 2 185 181 1 2 186",
   "181 1 2 184 17w 1 2 184 17x 1 2 184 17y 1 2 184 18l 1 2 183 18n 1 2 184 18n 1 2 187 18l 1",
   "2 183 17w 1 2 183 17x 1 2 183 17y 1 2 184 17w 1 2 184 17x 1 2 184 17y 1 2 187 18l 1 2 188",
   "18l 1 2 17r 18r 1 2 17r 18r j 3 17u 17w 18l 1 3 17u 17x 17w 1 3 17u 17x 17w 1 3 17u 17x",
   "18l 1 3 17u 17y 18l 1 3 17u 18l 17w 1 3 17u 18l 17x 1 3 17u 18l 17y 1 3 17w 18l 17x 1 3",
   "17w 18l 17x 1 3 17x 18l 18q 1 3 17x 18l 18p 1 3 183 17x 17w 1 3 183 17w 17x 1 3 183 17w",
   "18p 1 3 183 18l 17x 1 3 183 18l 17x 1 3 183 18l 17w 1 3 183 18l 18l 1 3 183 18l 18l 1 3",
   "185 17x 17x 1 3 185 17x 17x 1 3 185 18l 18l 1 3 184 17x 18l 1 3 184 17x 18l 1 3 184 17w",
   "18q 1 3 184 18l 17y 1 3 184 18l 17y 1 3 184 18l 18l 1 3 184 18l 18l 1 3 186 17x 18p 1 3",
   "186 17y 18l 1 3 186 17y 18l 1 3 187 18l 17x 1 3 187 18l 17x 1 3 187 18l 18l 1 3 187 18l",
   "18q 1 3 189 17w 18l 1 3 189 18l 18l 1 3 189 18l 18l 1 3 189 18l 18p 1 3 18a 18l 18l 1 3",
   "18a 18l 18q 1 3 18a 18l 18p 1 3 18h 17y 18l 1 3 18h 17y 18l 1 3 18i 18l 17x 1 3 18i 18l",
   "18l 1 3 18k 17x 18l 1 3 18k 17x 18q 1 3 18k 17x 18p 1 3 18k 17w 17w 1 3 18k 17w 17w 1 3",
   "18k 17y 18l 1 3 18k 17y 18l 1 3 18k 18l 17x 1 3 18k 18l 17x 1 3 18l 17x 17w 1 3 18l 17x",
   "18l 1 3 18l 17x 18q 1 3 18l 17w 17x 1 3 18l 17w 18l 1 3 18l 17y 17w 1 3 18l 17y 18l 3 3",
   "18l 17w 17y 1 3 18n 18l 17w 1 3 18n 18l 18l 1 3 18m 17x 18l 1 3 18m 17x 18p 1 3 18m 17w",
   "18l 1 3 18m 17w 18l 1 3 18m 17w 18p 1 3 18m 18l 18q 1 3 18m 18l 18p 1 3 18q 18l 18l 1 3",
   "18q 18l 18l 1 3 17s 17y 18q 1 3 17u 17w 18q 1 3 17u 17w 18p 1 3 17u 17y 18q 1 3 17u 17y",
   "18p 1 3 17u 18l 18q 1 3 17u 18l 18p 1 3 17w 18l 18q 1 3 17w 17x 18p 1 3 17w 18l 18p 1 3",
   "183 17y 18p 1 3 185 17x 18q 1 3 184 17x 18q 1 3 186 17x 18q 1 3 18k 17w 18q 1 3 18k 18l",
   "18q 1 3 18q 17x 18q 1 3 18q 17w 18q 1 3 18q 18l 18q 1 3 18l 18l 18q 1 3 18i 18l 18q 1 3",
   "18m 17x 18q 1 3 18i 18l 17x 1 3 18k 17x 18l 1 3 189 18l 18q 1 3 18j 18l 18q 1 3 18m 17w",
   "17x 1 3 18l 17y 18q 1 3 18k 17w 18l 1 3 18j 18l 18l 1 3 18k 17w 18l 1 3 18m 17w 17x 1 3",
   "17w 17x 18q 1 3 17x 17w 18q 1 3 18l 17w 18q 1 3 18h 18l 18q 1 3 17s 17x 18q 1 3 18j 18l",
   "18l 1 3 189 17w 18l 1 3 185 18l 18l 1 3 183 17y 18q 1 3 18m 17w 18q 15 3 185 18k 1ci 1 3",
   "18i 18k 1ci 1 4 17r 18k 18k 18n 1 4 17r 18j 17s 181 1 4 18l 17x 18l 17z 1 4 185 18k 189",
   "18l 1 4 181 183 18o 18k 1 4 189 18k 18q 18n 1 4 18o 183 18k 18l 1 3 185 18k 18p 3c 2 18g",
   "18r 6 2 18g 18u 2 2 18g 18v 2 2 18g 18w 2 2 18g 18x 2 2 18g 18y 2 2 17r 18z 1 2 17r 18z 1",
   "2 17r 190 1 2 17r 190 1 2 18o 190 1 2 18o 190 1 2 17r 191 1 2 17r 191 1 2 18q 190 1 2 18q",
   "190 1 2 18q 190 1 2 18q 190 2x 3 18k 17r 18z 1 3 18k 17r 18z 1 3 18k 17r 190 1 3 18k 17r",
   "190 1 3 18k 17r 191 1 3 18k 17r 191 1 2 18k 17r 1 2 18k 17r 3ha 2 1huh 1hve 2 2 1huj 1hve",
   "f 2 1hut 1hve 3n 2 1hyp 1hyf 1 2 1hyq 1hyf f0 2 1idj 1ida 1 2 1idj 1idz a7 2 1int 1inu 1 2",
   "1int 1ink 2 2 1int 1inx 70 2 1iuw 1iun 1 2 1iux 1iun ot 2 1jjp 1jjk"]

/-- The classes of marks: the distance of a run from the one before it, its length and its class. -/
def markClasses : List String :=
  ["lc k 6e 1 0 6g 1 3 64 1 0 6g 1 0 60 1 4 64 1 1 5m 1 3 64 1 1 5m 1 a 64 1 4 1 1 3 64 1 7 6e",
   "1 0 6o 1 0 6e 1 2 64 1 2 6e 1 1 64 2 2 6e 1 3 64 1 0 6e 1 0 6g 1 1 64 1 0 6e 1 0 6h 1 1 6i",
   "1 0 6h 1 1 6i 1 0 6h 1 c 6e 7o 4 6e 7e 0 64 1 3 6e 1 0 64 1 2 6e 1 0 66 1 0 64 1 5 6e 1 5",
   "64 1 1 6e 1 0 64 1 1 6e 1 0 66 1 0 6c 1 0 6e 1 0 a 1 0 b 1 0 c 1 0 d 1 0 e 1 0 f 1 0 g 1 0",
   "h 1 0 i 1 1 j 1 0 k 1 0 l 1 0 m 2 0 n 2 0 o 1 0 p 2 0 6e 1 0 64 2 0 i 21 7 6e 1 0 u 1 0 v",
   "1 0 w 1d 0 r 1 0 s 1 0 t 1 0 u 1 0 v 1 0 w 1 0 x 1 0 y 1 1 6e 1 1 64 1 4 6e 1 0 64 1 1 6e",
   "1 0 64 h 0 z 2u 6 6e 3 3 6e 1 0 64 1 0 6e 3 1 6e 2 0 64 1 1 6e 1 0 64 10 0 10 v 0 6e 1 0",
   "64 1 1 6e 1 0 64 1 1 6e 1 2 64 1 0 6e 1 1 64 1 0 6e 1 0 64 1 2 6e 1 0 64 1 0 6e 1 0 64 1 0",
   "6e 1 0 64 1 0 6e 1 0 64 1 1 6e 4h 6 6e 1 0 64 1 0 6e a 0 64 p 3 6e 2 8 6e 2 2 6e 2 4 6e 18",
   "2 64 1p 0 6e 1 2 64 1 3 6e 17 4 6e 1 4 64 1 d 6e 2 0 64 1 1 6e 1 0 64 1 1 6e 1 0 64 1 2 6e",
   "1 2 64 1 0 r 1 0 s 1 0 t 1 2 6e 1 0 64 1 1 6e 1 1 64 1 4 6e 1p 0 7 h 0 9 4 0 6e 1 0 64 1 1",
   "6e 2w 0 7 h 0 9 1d 0 6e 1q 0 7 h 0 9 33 0 7 h 0 9 33 0 7 h 0 9 3k 0 9 33 0 7 h 0 9 8 0 2c",
   "1 0 2j 2u 0 7 h 0 9 32 1 9 h 0 9 3h 0 9 32 1 2v 1 0 9 e 3 2z 31 1 3a 1 0 9 e 3 3e 25 1 64",
   "s 0 64 2 0 64 2 0 60 1k 0 3l 1 0 3m 2 0 3o 6 3 3m 3 0 3m 2 1 6e 1 0 9 2 1 6e 1r 0 64 35 0",
   "7 2 1 9 2b 0 64 k0 2 6e qd 1 9 v 0 9 4e 0 9 b 0 6e 5o 0 6c 40 0 66 1 0 6e 1 0 64 64 0 6e 1",
   "0 64 20 0 9 l 7 6e 3 0 64 1d 4 6e 1 5 64 1 1 6e 1 0 64 2 1 64 1 1 6e 1 1 64 1 4 6e 1 0 64",
   "1 3 6e 2u 0 7 g 0 9 13 0 6e 1 0 64 1 6 6e 1j 1 9 1n 0 7 c 1 9 1w 0 7 49 2 6e 2 0 1 1 4 64",
   "1 1 6e 1 3 64 1 0 6e 2 6 1 5 0 64 7 0 6e 4 1 6e 5j 1 6e 1 0 64 1 6 6e 1 0 64 1 1 6e 1 0 6i",
   "1 0 5y 1 0 64 1 0 5m 1 10 6e 1 0 6g 1 1 6c 1 0 64 1 0 62 1 0 6e 1 0 6h 1 0 64 1 0 6e 1 0",
   "64 k1 1 6e 1 1 1 1 3 6e 1 2 1 1 1 6e 5 0 6e 4 1 1 1 0 6e 1 0 64 1 0 6e 1 1 1 1 3 64 1 0 6e",
   "2db 2 6e 3y 0 9 2p v 6e ff 0 62 1 0 6c 1 0 6g 1 0 66 1 1 68 2y 1 8 n9x 0 6e 5 9 6e x 1 6e",
   "29 1 6e 7p 0 9 12 0 9 48 0 9 s h 6e 1m 2 64 12 0 9 2o 0 7 d 0 9 6o 0 6e 2 1 6e 1 0 64 3 1",
   "6e 6 1 6e 2 0 6e 1h 0 9 6v 0 9 fn5 0 q le 6 6e 1 6 64 1 1 6e r2 0 64 6b 0 64 46 4 6e 1ar 0",
   "64 2 0 6e 15 0 6e 1 0 1 1 0 64 5 0 9 4m 0 6e 1 0 64 fy 3 6e as 1 6e 4a 1 64 1 2 6e 1 0 64",
   "1 0 6e 1 3 64 1e 0 6e 1 0 64 1 0 6e 1 0 64 5d 0 9 16 0 9 f 0 9 1m 0 9 1 0 7 1y 2 6e 1d 1 9",
   "1r 0 7 25 0 9 a 0 7 2z 0 9 1 0 7 4z 0 7 1 0 9 29 1 7 h 0 9 p 6 6e 4 4 6e 5q 0 9 4 0 7 o 0",
   "6e 2s 0 9 1 0 7 70 0 9 1 0 7 3j 0 9 3b 0 9 1 0 7 38 0 9 7i 0 9 1 0 7 77 1 9 5 0 7 4d 0 9",
   "2c 0 9 j 0 9 2a 0 9 bq 0 9 77 0 7 2 1 9 2a 0 9 fa1 4 1 1o 6 6e xm 1 6 f59 0 1 43r 1 60 1 2",
   "1 4 0 6a 1 4 60 9 7 64 3 4 6e 1 1 64 v 3 6e 45 2 6e 2po 6 6e 2 g 6e 3 6 6e 2 1 6e 2 4 6e",
   "7a 6 6e ag 0 6e 1q 3 6e 15t 6 64 32 5 6e 1 0 7"]

/-- The pairs that are put together: the distance of the first character from the one of the pair
before it, the second character, and what they make. -/
def pairings : List String :=
  ["1o mw 6su 1 mw 6sg 1 mw 6sv 3 lc 5c 0 ld 5d 0 le 5e 0 lf 5f 0 lg 74 0 li 76 0 lj fa 0 lk",
   "5g 0 ll 61u 0 lm 5h 0 lo ct 0 lr e8 0 lt ea 0 mb 61s 0 md 5xc 0 mg 78 1 lj 5xe 0 mb 5xg 0",
   "mp 5xi 1 ld 7a 0 le 7c 0 lj 7e 0 lo 7g 0 mf 5j 1 lj 5xm 0 lo 7i 0 mb 5xo 0 mf 5xs 0 ml 5xu",
   "0 mp 5xq 1 lc 5k 0 ld 5l 0 le 5m 0 lf 62k 0 lg 7m 0 li 7o 0 lj 7q 0 lk 5n 0 ll 62i 0 lo 7u",
   "0 lr ec 0 lt ee 0 mb 62g 0 mf fc 0 mg 7s 0 ml 5y0 0 mo 5y2 1 lj 5y6 1 ld dw 0 le 7w 0 lg",
   "5y8 0 li 7y 0 lj 80 0 lo di 0 mf 82 1 le 84 0 lj 5ya 0 lk 5ye 0 lo f2 0 mb 5yc 0 mf 5yg 0",
   "mm 5yi 1 lc 5o 0 ld 5p 0 le 5q 0 lf 88 0 lg 8a 0 li 8c 0 lj 8g 0 lk 5r 0 ll 62w 0 lo cv 0",
   "lr eg 0 lt ei 0 mb 62y 0 mg 8e 0 mo 5yk 1 le 8k 1 ld 5yo 0 lo dk 0 mb 5yq 0 mf 8m 0 mp 5ys",
   "1 ld 8p 0 lo 8t 0 mb 5yu 0 mf 8r 0 ml 5z0 0 mp 5yy 1 ld 5z2 0 lj 5z4 0 mb 5z6 1 lc e0 0 ld",
   "8z 0 lf 5t 0 lj 5z8 0 lo 93 0 mb 5za 0 mf 91 0 ml 5ze 0 mp 5zc 1 lc 5u 0 ld 5v 0 le 5w 0",
   "lf 5x 0 lg 98 0 li 9a 0 lj fi 0 lk 5y 0 ll 632 0 ln 9c 0 lo cx 0 lr ek 0 lt em 0 m3 bk 0",
   "mb 630 0 mg dm 1 ld 5zo 0 lj 5zq 2 ld 9g 0 lj 5zs 0 lo 9k 0 lr eo 0 lt eq 0 mb 5zu 0 mf 9i",
   "0 mp 5zy 1 ld 9m 0 le 9o 0 lj 600 0 lo 9s 0 mb 602 0 me ew 0 mf 9q 1 lj 60a 0 lo 9w 0 mb",
   "60c 0 me ey 0 mf 9u 0 ml 60g 0 mp 60e 1 lc 61 0 ld 62 0 le 63 0 lf a0 0 lg a2 0 li a4 0 lk",
   "64 0 ll 63q 0 lm a6 0 ln a8 0 lo cz 0 lr es 0 lt eu 0 m3 bz 0 mb 63o 0 mc 60i 0 mg aa 0 ml",
   "60m 0 mo 60k 1 lf 60s 0 mb 60u 1 lc 60w 0 ld 60y 0 le ac 0 lj 612 0 lk 610 0 mb 614 1 lj",
   "616 0 lk 618 1 lc 642 0 ld 65 0 le ae 0 lf 648 0 lg fm 0 lj 61a 0 lk ag 0 ll 646 0 mb 644",
   "1 ld ah 0 le 61c 0 lj aj 0 lo al 0 mb 61e 0 mp 61g 7 lc 68 0 ld 69 0 le 6a 0 lf 6b 0 lg 75",
   "0 li 77 0 lj fb 0 lk 6c 0 ll 61v 0 lm 6d 0 lo cu 0 lr e9 0 lt eb 0 mb 61t 0 md 5xd 0 mg 79",
   "1 lj 5xf 0 mb 5xh 0 mp 5xj 1 ld 7b 0 le 7d 0 lj 7f 0 lo 7h 0 mf 6f 1 lj 5xn 0 lo 7j 0 mb",
   "5xp 0 mf 5xt 0 ml 5xv 0 mp 5xr 1 lc 6g 0 ld 6h 0 le 6i 0 lf 62l 0 lg 7n 0 li 7p 0 lj 7r 0",
   "lk 6j 0 ll 62j 0 lo 7v 0 lr ed 0 lt ef 0 mb 62h 0 mf fd 0 mg 7t 0 ml 5y1 0 mo 5y3 1 lj 5y7",
   "1 ld dx 0 le 7x 0 lg 5y9 0 li 7z 0 lj 81 0 lo dj 0 mf 83 1 le 85 0 lj 5yb 0 lk 5yf 0 lo f3",
   "0 mb 5yd 0 mf 5yh 0 mm 5yj 0 mp 61i 1 lc 6k 0 ld 6l 0 le 6m 0 lf 89 0 lg 8b 0 li 8d 0 lk",
   "6n 0 ll 62x 0 lo cw 0 lr eh 0 lt ej 0 mb 62z 0 mg 8f 0 mo 5yl 1 le 8l 0 lo ds 1 ld 5yp 0",
   "lo dl 0 mb 5yr 0 mf 8n 0 mp 5yt 1 ld 8q 0 lo 8u 0 mb 5yv 0 mf 8s 0 ml 5z1 0 mp 5yz 1 ld",
   "5z3 0 lj 5z5 0 mb 5z7 1 lc e1 0 ld 90 0 lf 6p 0 lj 5z9 0 lo 94 0 mb 5zb 0 mf 92 0 ml 5zf 0",
   "mp 5zd 1 lc 6q 0 ld 6r 0 le 6s 0 lf 6t 0 lg 99 0 li 9b 0 lj fj 0 lk 6u 0 ll 633 0 ln 9d 0",
   "lo cy 0 lr el 0 lt en 0 m3 bl 0 mb 631 0 mg dn 1 ld 5zp 0 lj 5zr 2 ld 9h 0 lj 5zt 0 lo 9l",
   "0 lr ep 0 lt er 0 mb 5zv 0 mf 9j 0 mp 5zz 1 ld 9n 0 le 9p 0 lj 601 0 lo 9t 0 mb 603 0 me",
   "ex 0 mf 9r 1 lj 60b 0 lk 61j 0 lo 9x 0 mb 60d 0 me ez 0 mf 9v 0 ml 60h 0 mp 60f 1 lc 6x 0",
   "ld 6y 0 le 6z 0 lf a1 0 lg a3 0 li a5 0 lk 70 0 ll 63r 0 lm a7 0 ln a9 0 lo d0 0 lr et 0",
   "lt ev 0 m3 c0 0 mb 63p 0 mc 60j 0 mg ab 0 ml 60n 0 mo 60l 1 lf 60t 0 mb 60v 1 lc 60x 0 ld",
   "60z 0 le ad 0 lj 613 0 lk 611 0 lm 61k 0 mb 615 1 lj 617 0 lk 619 1 lc 643 0 ld 71 0 le af",
   "0 lf 649 0 lg fn 0 lj 61b 0 lk 73 0 ll 647 0 lm 61l 0 mb 645 1 ld ai 0 le 61d 0 lj ak 0 lo",
   "am 0 mb 61f 0 mp 61h 20 lc 61y 0 ld 61w 0 lf 622 0 ll 620 2 lg da 1 ld e2 1 ld e4 0 lg de",
   "1 ld 5xk 3 lc 62o 0 ld 62m 0 lf 62s 0 ll 62q 5 ld 5ym 5 lc 636 0 ld 634 0 lf 63a 0 ll 638",
   "1 ld 5zg 0 lg fg 0 lk 5zi 1 lg fe 2 ld e6 4 lc d7 0 ld d3 0 lg d1 0 lo d5 6 lc 61z 0 ld",
   "61x 0 lf 623 0 ll 621 2 lg db 1 ld e3 1 ld e5 0 lg df 1 ld 5xl 3 lc 62p 0 ld 62n 0 lf 62t",
   "0 ll 62r 5 ld 5yn 5 lc 637 0 ld 635 0 lf 63b 0 ll 639 1 ld 5zh 0 lg fh 0 lk 5zj 1 lg ff 2",
   "ld e7 4 lc d8 0 ld d4 0 lg d2 0 lo d6 6 lc 628 0 ld 626 0 lf 62c 0 ll 62a 1 lc 629 0 ld",
   "627 0 lf 62d 0 ll 62b f lc 5xw 0 ld 5xy 1 lc 5xx 0 ld 5xz 1l lc 5zk 0 ld 5zm 1 lc 5zl 0 ld",
   "5zn d lj 604 1 lj 605 5 lj 606 1 lj 607 7 ld 60o 1 ld 60p 1 lk 60q 1 lk 60r k lj 61n x lc",
   "63g 0 ld 63e 0 lf 63k 0 ll 63i 0 mb 63m 1 lc 63h 0 ld 63f 0 lf 63l 0 ll 63j 0 mb 63n e lc",
   "63u 0 ld 63s 0 lf 63y 0 ll 63w 0 mb 640 1 lc 63v 0 ld 63t 0 lf 63z 0 ll 63x 0 mb 641 7 lo",
   "dq 1f lg do 1 lg dp 1n lg dc 1 lg dd 1 li 5y4 1 li 5y5 5 lg fk 1 lg fl 2r lo dr 73 lc 69m",
   "0 ld p2 0 lg 69l 0 li 69k 0 lv 64o 0 lw 64p 0 n9 69o 4 lc 6a0 0 ld p4 0 lv 654 0 lw 655 2",
   "lc 6a2 0 ld p5 0 lv 65k 0 lw 65l 0 n9 6a4 2 lc 6ai 0 ld p6 0 lg 6ah 0 li 6ag 0 lk q2 0 lv",
   "660 0 lw 661 6 lc 6bc 0 ld p8 0 lv 66g 0 lw 66h 2 lw 6b0 4 lc 6ay 0 ld pa 0 lg 6ax 0 li",
   "6aw 0 lk q3 0 lw 66x 4 lc 6be 0 ld pb 0 lv 67c 0 lw 67d 0 n9 6bg 3 n9 69g 2 n9 69w 3 lc",
   "67k 0 ld q4 0 lg 69d 0 li 69c 0 lv 64g 0 lw 64h 0 n6 69i 0 n9 69f 4 lc 67m 0 ld q5 0 lv",
   "64w 0 lw 64x 2 lc 67o 0 ld q6 0 lv 65c 0 lw 65d 0 n6 69y 0 n9 69v 2 lc 67q 0 ld q7 0 lg",
   "6a9 0 li 6a8 0 lk qy 0 lv 65s 0 lw 65t 0 n6 6ae 6 lc 67s 0 ld r0 0 lv 668 0 lw 669 2 lv",
   "6as 0 lw 6at 4 lc 67u 0 ld r1 0 lg 6ap 0 li 6ao 0 lk qz 0 lv 66o 0 lw 66p 0 n6 6au 4 lc",
   "67w 0 ld r2 0 lv 674 0 lw 675 0 n6 6ba 0 n9 6b7 1 lc 6aa 0 ld pc 0 n6 6af 1 lc 6aq 0 ld q8",
   "0 n6 6av 3 n9 6b8 4 ld r7 0 lk r8 1g lk sn a li y8 0 lk ya 3 ld sj 2 lc sg 0 li ye 0 lk sh",
   "1 li xt 0 lk yk 1 lk ym 1 lc st 0 lg yq 0 li t5 0 lk ys 2 ld ss 4 lk yu 5 lg z2 0 li su 0",
   "lk z4 0 ln z6 4 lk z8 4 lk zc 2 lk z0 3 li y9 0 lk yb 3 ld ur 2 lc uo 0 li yf 0 lk up 1 li",
   "xu 0 lk yl 1 lk yn 1 lc v1 0 lg yr 0 li u1 0 lk yt 2 ld v0 4 lk yv 5 lg z3 0 li v2 0 lk z5",
   "0 ln z7 4 lk z9 4 lk zd 2 lk z1 9 lk uv u lr vq 1 lr vr 2r lk yi 1 lk yj f lk yy 1 lk yz",
   "8u 18z 17m 0 190 17n 0 191 17p x 190 17o 2 190 17q 3b 190 1c2 h 190 1cj 3 190 1c0 gj 1to",
   "1t5 8 1to 1td 3 1to 1tg 44 1xa 1xn 0 1xz 1xo ao 27y 28b 0 28m 288 0 28n 28c 23 2c7 2ac 1g",
   "2bi 2bu 0 2c7 2bw 1 2bi 2bv 3j 2fq 2fc 3d 2j9 2io 7 2iq 2iy 0 2j9 2iv 0 2ja 2iw 4 2j9 2iz",
   "3g 2m6 2mi 0 2mv 2mk 1 2m6 2mj 42 2q2 2qi 0 2q7 2qk 0 2qn 2qm 3 2q2 2ql g9 372 36u 25c 5dh",
   "5c6 2 5dh 5c8 2 5dh 5ca 2 5dh 5cc 2 5dh 5ce 4 5dh 5ci 15 5dh 5dn 2 5dh 5dp 2 5dh 5ds 1 5dh",
   "5dt 3 5dh 5dv l0 lg 5yw 1 lg 5yx z lg 5zw 1 lg 5zx 7 lj 608 1 lj 609 1p le 624 0 li 62e 1",
   "le 625 0 li 62f n le 62u 1 le 62v j le 63c 1 le 63d 1f lc 64i 0 ld 64k 0 n6 64m 0 n9 680 1",
   "lc 64j 0 ld 64l 0 n6 64n 0 n9 681 1 n9 682 1 n9 683 1 n9 684 1 n9 685 1 n9 686 1 n9 687 1",
   "lc 64q 0 ld 64s 0 n6 64u 0 n9 688 1 lc 64r 0 ld 64t 0 n6 64v 0 n9 689 1 n9 68a 1 n9 68b 1",
   "n9 68c 1 n9 68d 1 n9 68e 1 n9 68f 1 lc 64y 0 ld 650 1 lc 64z 0 ld 651 7 lc 656 0 ld 658 1",
   "lc 657 0 ld 659 7 lc 65e 0 ld 65g 0 n6 65i 0 n9 68g 1 lc 65f 0 ld 65h 0 n6 65j 0 n9 68h 1",
   "n9 68i 1 n9 68j 1 n9 68k 1 n9 68l 1 n9 68m 1 n9 68n 1 lc 65m 0 ld 65o 0 n6 65q 0 n9 68o 1",
   "lc 65n 0 ld 65p 0 n6 65r 0 n9 68p 1 n9 68q 1 n9 68r 1 n9 68s 1 n9 68t 1 n9 68u 1 n9 68v 1",
   "lc 65u 0 ld 65w 0 n6 65y 1 lc 65v 0 ld 65x 0 n6 65z 7 lc 662 0 ld 664 0 n6 666 1 lc 663 0",
   "ld 665 0 n6 667 7 lc 66a 0 ld 66c 1 lc 66b 0 ld 66d 7 lc 66i 0 ld 66k 1 lc 66j 0 ld 66l 7",
   "lc 66q 0 ld 66s 0 n6 66u 1 lc 66r 0 ld 66t 0 n6 66v 8 lc 66z 0 ld 671 0 n6 673 7 lc 676 0",
   "ld 678 0 n6 67a 0 n9 68w 1 lc 677 0 ld 679 0 n6 67b 0 n9 68x 1 n9 68y 1 n9 68z 1 n9 690 1",
   "n9 691 1 n9 692 1 n9 693 1 lc 67e 0 ld 67g 0 n6 67i 0 n9 694 1 lc 67f 0 ld 67h 0 n6 67j 0",
   "n9 695 1 n9 696 1 n9 697 1 n9 698 1 n9 699 1 n9 69a 1 n9 69b 1 n9 69e 4 n9 69u 8 n9 6b6 1m",
   "n9 69j g n9 69z 1c n9 6bb 380 9ll 9lg 5 9ll 9jg 2 9ll 9ji 2 9ll 9jk 2 9ll 9jm 2 9ll 9jo 2",
   "9ll 9jq 2 9ll 9js 2 9ll 9ju 2 9ll 9jw 2 9ll 9jy 2 9ll 9k0 2 9ll 9k2 3 9ll 9k5 2 9ll 9k7 2",
   "9ll 9k9 7 9ll 9kg 0 9lm 9kh 3 9ll 9kj 0 9lm 9kk 3 9ll 9km 0 9lm 9kn 3 9ll 9kp 0 9lm 9kq 3",
   "9ll 9ks 0 9lm 9kt y 9ll 9lq 9 9ll 9o4 5 9ll 9m4 2 9ll 9m6 2 9ll 9m8 2 9ll 9ma 2 9ll 9mc 2",
   "9ll 9me 2 9ll 9mg 2 9ll 9mi 2 9ll 9mk 2 9ll 9mm 2 9ll 9mo 2 9ll 9mq 3 9ll 9mt 2 9ll 9mv 2",
   "9ll 9mx 7 9ll 9n4 0 9lm 9n5 3 9ll 9n7 0 9lm 9n8 3 9ll 9na 0 9lm 9nb 3 9ll 9nd 0 9lm 9ne 3",
   "9ll 9ng 0 9lm 9nh k 9ll 9o7 1 9ll 9o8 1 9ll 9o9 1 9ll 9oa b 9ll 9oe 1864 1hve 1hui 2 1hve",
   "1huk a 1hve 1huz 3w 1hyf 1hym 1 1hyf 1hyn et 1ida 1idn 0 1idz 1ido aa 1ink 1inw 0 1inu",
   "1inv 0 1inx 1iny 73 1iun 1iuy 1 1iun 1iuz os 1jjk 1jjs"]

/-- Runs of code points, each with a number. -/
def runsOf (after : Nat) : List Nat → List (Nat × Nat × Nat)
  | gap :: length :: number :: rest =>
    let low := after + gap
    (low, low + length, number) :: runsOf (low + length) rest
  | _ => []

/-- Code points, each with several numbers. -/
def listsOf (after fuel : Nat) : List Nat → List (Nat × List Nat)
  | gap :: count :: rest =>
    match fuel with
    | 0 => []
    | fuel + 1 => (after + gap, rest.take count) :: listsOf (after + gap) fuel (rest.drop count)
  | _ => []

/-- The parts of a code point. Syllables of Hangul are taken apart by calculation. -/
def partsOf (n : Nat) : List Nat :=
  if 0xAC00 ≤ n && n ≤ 0xD7A3 then
    let index := n - 0xAC00
    let last := index % 28
    [0x1100 + index / 588, 0x1161 + index % 588 / 28] ++ (if last = 0 then [] else [0x11A7 + last])
  else
    match (runsOf 0 (packedNumbers singleParts)).find? fun (low, high, _) => low ≤ n && n ≤ high with
    | some (low, _, part) => [part + (n - low)]
    | none =>
      let several := packedNumbers severalParts
      ((listsOf 0 several.length several).lookup n).getD [n]

/-- The class of a mark; a character that is no mark has the class zero. -/
def markClass (n : Nat) : Nat :=
  match (runsOf 0 (packedNumbers markClasses)).find? fun (low, high, _) => low ≤ n && n ≤ high with
  | some (_, _, number) => number
  | none => 0

/-- What two code points make, if they are put together. -/
def pairing? (a b : Nat) : Option Nat :=
  if 0x1100 ≤ a && a < 0x1113 && 0x1161 ≤ b && b < 0x1176 then
    some (0xAC00 + ((a - 0x1100) * 21 + (b - 0x1161)) * 28)
  else if 0xAC00 ≤ a && a ≤ 0xD7A3 && (a - 0xAC00) % 28 == 0 && 0x11A8 ≤ b && b < 0x11C3 then
    some (a + (b - 0x11A7))
  else
    let rec find (after : Nat) : List Nat → Option Nat
      | gap :: second :: whole :: rest =>
        if after + gap == a && second == b then some whole else find (after + gap) rest
      | _ => none
    find 0 (packedNumbers pairings)

/-- Code points with the marks after each character in the order of their classes. -/
def orderMarks : List (Nat × Nat) → List (Nat × Nat)
  | [] => []
  | mark :: rest =>
    let sorted := orderMarks rest
    if mark.2 = 0 then mark :: sorted
    else
      let before := sorted.takeWhile fun other => other.2 != 0 && other.2 < mark.2
      before ++ mark :: sorted.drop before.length

/-- Puts together what can be. `first` is the last character that is no mark, `kept` the reversed marks
after it that stay, and `top` the class of the last of them. -/
def compose (first : Option Nat) (kept : List Nat) (top : Nat) : List (Nat × Nat) → List Nat
  | [] => first.toList ++ kept.reverse
  | (n, number) :: rest =>
    let whole? := match first with
      | some a => if kept.isEmpty || (top < number && top != 0) then pairing? a n else none
      | none => none
    match whole? with
    | some whole => compose (some whole) kept top rest
    | none =>
      if number = 0 then (first.toList ++ kept.reverse) ++ compose (some n) [] 0 rest
      else compose first (n :: kept) number rest

def compatibleForm (cs : List Char) : List Char :=
  if cs.all fun c => c.toNat < 128 then cs
  else
    let parts := cs.flatMap fun c => partsOf c.toNat
    (compose none [] 0 (orderMarks (parts.map fun n => (n, markClass n)))).map Char.ofNat

end ReleasePackaging.Text
