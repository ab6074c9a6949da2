/-
# Scripts

The properties Script and Script_Extensions of every code point, and the names of
the scripts.  Stretches are listed from code point zero upwards with lengths in
base 36.
-/

namespace BotHost

namespace Unicode

/-- The stretches of equal script, each as the script's code and the length. -/
def scriptLines : List String :=
  ["Zyyy1t Latnq Zyyy6 Latnq Zyyy1b Latn1 Zyyyf Latn1 Zyyy5 Latnn Zyyy1 Latnv Zyyy1",
    "Latnch Zyyy13 Latn5 Zyyy5 Bopo2 Zyyyk Zinh34 Grek4 Zyyy1 Grek3 Zzzz2 Grek4 Zyyy1",
    "Grek1 Zzzz4 Grek1 Zyyy1 Grek1 Zyyy1 Grek3 Zzzz1 Grek1 Zzzz1 Grekk Zzzz1 Grek1r Copte",
    "Grekg Cyrl3p Zinh2 Cyrl4p Zzzz1 Armn12 Zzzz2 Armn1e Zzzz2 Armn3 Zzzz1 Hebr1j Zzzz8",
    "Hebrr Zzzz4 Hebr6 Zzzzb Arab5 Zyyy1 Arab6 Zyyy1 Arabe Zyyy1 Arab3 Zyyy1 Arabw Zyyy1",
    "Araba Zinhb Arabq Zinh1 Arab30 Zyyy1 Araby Syrce Zzzz1 Syrc1o Zzzz2 Syrc3 Arab1c",
    "Thaa1e Zzzze Nkoo1n Zzzz2 Nkoo3 Samr1a Zzzz2 Samrf Zzzz1 Mands Zzzz2 Mand1 Zzzz1",
    "Syrcb Zzzz5 Araby Zzzz5 Arab23 Zyyy1 Arabt Deva29 Zinh4 Devaf Zyyy2 Devaq Beng4",
    "Zzzz1 Beng8 Zzzz2 Beng2 Zzzz2 Bengm Zzzz1 Beng7 Zzzz1 Beng1 Zzzz3 Beng4 Zzzz2 Beng9",
    "Zzzz2 Beng2 Zzzz2 Beng4 Zzzz8 Beng1 Zzzz4 Beng2 Zzzz1 Beng5 Zzzz2 Bengp Zzzz2 Guru3",
    "Zzzz1 Guru6 Zzzz4 Guru2 Zzzz2 Gurum Zzzz1 Guru7 Zzzz1 Guru2 Zzzz1 Guru2 Zzzz1 Guru2",
    "Zzzz2 Guru1 Zzzz1 Guru5 Zzzz4 Guru2 Zzzz2 Guru3 Zzzz3 Guru1 Zzzz7 Guru4 Zzzz1 Guru1",
    "Zzzz7 Guruh Zzzza Gujr3 Zzzz1 Gujr9 Zzzz1 Gujr3 Zzzz1 Gujrm Zzzz1 Gujr7 Zzzz1 Gujr2",
    "Zzzz1 Gujr5 Zzzz2 Gujra Zzzz1 Gujr3 Zzzz1 Gujr3 Zzzz2 Gujr1 Zzzzf Gujr4 Zzzz2 Gujrc",
    "Zzzz7 Gujr7 Zzzz1 Orya3 Zzzz1 Orya8 Zzzz2 Orya2 Zzzz2 Oryam Zzzz1 Orya7 Zzzz1 Orya2",
    "Zzzz1 Orya5 Zzzz2 Orya9 Zzzz2 Orya2 Zzzz2 Orya3 Zzzz7 Orya3 Zzzz4 Orya2 Zzzz1 Orya5",
    "Zzzz2 Oryai Zzzza Taml2 Zzzz1 Taml6 Zzzz3 Taml3 Zzzz1 Taml4 Zzzz3 Taml2 Zzzz1 Taml1",
    "Zzzz1 Taml2 Zzzz3 Taml2 Zzzz3 Taml3 Zzzz3 Tamlc Zzzz4 Taml5 Zzzz3 Taml3 Zzzz1 Taml4",
    "Zzzz2 Taml1 Zzzz6 Taml1 Zzzze Tamll Zzzz5 Telud Zzzz1 Telu3 Zzzz1 Telun Zzzz1 Telug",
    "Zzzz2 Telu9 Zzzz1 Telu3 Zzzz1 Telu4 Zzzz7 Telu2 Zzzz1 Telu3 Zzzz1 Telu2 Zzzz2 Telu4",
    "Zzzz2 Telua Zzzz7 Telu9 Kndad Zzzz1 Knda3 Zzzz1 Kndan Zzzz1 Kndaa Zzzz1 Knda5 Zzzz2",
    "Knda9 Zzzz1 Knda3 Zzzz1 Knda4 Zzzz7 Knda2 Zzzz5 Knda3 Zzzz1 Knda4 Zzzz2 Kndaa Zzzz1",
    "Knda3 Zzzzc Mlymd Zzzz1 Mlym3 Zzzz1 Mlym1f Zzzz1 Mlym3 Zzzz1 Mlym6 Zzzz4 Mlymg Zzzz2",
    "Mlymq Zzzz1 Sinh3 Zzzz1 Sinhi Zzzz3 Sinho Zzzz1 Sinh9 Zzzz1 Sinh1 Zzzz2 Sinh7 Zzzz3",
    "Sinh1 Zzzz4 Sinh6 Zzzz1 Sinh1 Zzzz1 Sinh8 Zzzz6 Sinha Zzzz2 Sinh3 Zzzzc Thai1m Zzzz4",
    "Zyyy1 Thais Zzzz11 Laoo2 Zzzz1 Laoo1 Zzzz1 Laoo5 Zzzz1 Laooo Zzzz1 Laoo1 Zzzz1 Laoon",
    "Zzzz2 Laoo5 Zzzz1 Laoo1 Zzzz1 Laoo7 Zzzz1 Laooa Zzzz2 Laoo4 Zzzzw Tibt20 Zzzz1",
    "Tibt10 Zzzz4 Tibt13 Zzzz1 Tibt10 Zzzz1 Tibtf Zzzz1 Tibt7 Zyyy4 Tibt2 Zzzz11 Mymr4g",
    "Geor12 Zzzz1 Geor1 Zzzz5 Geor1 Zzzz2 Geor17 Zyyy1 Geor4 Hang74 Ethi21 Zzzz1 Ethi4",
    "Zzzz2 Ethi7 Zzzz1 Ethi1 Zzzz1 Ethi4 Zzzz2 Ethi15 Zzzz1 Ethi4 Zzzz2 Ethix Zzzz1 Ethi4",
    "Zzzz2 Ethi7 Zzzz1 Ethi1 Zzzz1 Ethi4 Zzzz2 Ethif Zzzz1 Ethi1l Zzzz1 Ethi4 Zzzz2",
    "Ethi1v Zzzz2 Ethiw Zzzz3 Ethiq Zzzz6 Cher2e Zzzz2 Cher6 Zzzz2 Canshs Ogamt Zzzz3",
    "Runr23 Zyyy3 Runrb Zzzz7 Tglgm Zzzz9 Tglg1 Hanol Zyyy2 Zzzz9 Buhdk Zzzzc Tagbd Zzzz1",
    "Tagb3 Zzzz1 Tagb2 Zzzzc Khmr2m Zzzz2 Khmra Zzzz6 Khmra Zzzz6 Mong2 Zyyy2 Mong1 Zyyy1",
    "Mongk Zzzz6 Mong2h Zzzz7 Mong17 Zzzz5 Cans1y Zzzza Limbv Zzzz1 Limbc Zzzz4 Limbc",
    "Zzzz4 Limb1 Zzzz3 Limbc Taleu Zzzz2 Tale5 Zzzzb Talu18 Zzzz4 Taluq Zzzz6 Talub Zzzz3",
    "Talu2 Khmrw Bugis Zzzz2 Bugi2 Lana1r Zzzz1 Lanat Zzzz2 Lanab Zzzz6 Lanaa Zzzz6 Lanae",
    "Zzzz2 Zinh1a Zzzz2 Zinhc Zzzzk Bali25 Zzzz1 Bali1e Sund1s Batk1g Zzzz8 Batk4 Lepc1k",
    "Zzzz3 Lepcf Zzzz3 Lepc3 Olck1c Cyrlb Zzzz5 Geor17 Zzzz2 Geor3 Sund8 Zzzz8 Zinh3",
    "Zyyy1 Zinhd Zyyy1 Zinh7 Zyyy4 Zinh1 Zyyy6 Zinh1 Zyyy3 Zinh2 Zyyy1 Zzzz5 Latn12 Grek5",
    "Cyrl1 Latn1d Grek5 Latn4 Grek5 Latnd Cyrl1 Latn1y Grek1 Zinh1s Latn74 Grekm Zzzz2",
    "Grek6 Zzzz2 Grek12 Zzzz2 Grek6 Zzzz2 Grek8 Zzzz1 Grek1 Zzzz1 Grek1 Zzzz1 Grek1 Zzzz1",
    "Grekv Zzzz2 Grek1h Zzzz1 Grekf Zzzz1 Greke Zzzz2 Grek6 Zzzz1 Grekj Zzzz2 Grek3 Zzzz1",
    "Grek9 Zzzz1 Zyyyc Zinh2 Zyyy2f Zzzz1 Zyyyb Latn1 Zzzz2 Zyyyb Latn1 Zyyyf Zzzz1 Latnd",
    "Zzzz3 Zyyyy Zzzze Zinhx Zzzzf Zyyy12 Grek1 Zyyy3 Latn2 Zyyy6 Latn1 Zyyyr Latn1 Zyyyh",
    "Latn15 Zyyy3 Zzzz4 Zyyyii Zzzzm Zyyyb Zzzzl Zyyyps Brai74 Zyyyhg Zzzz2 Zyyy3u Glag2o",
    "Latnw Copt38 Zzzz5 Copt7 Geor12 Zzzz1 Geor1 Zzzz5 Geor1 Zzzz2 Tfng1k Zzzz7 Tfng2",
    "Zzzze Tfng1 Ethin Zzzz9 Ethi7 Zzzz1 Ethi7 Zzzz1 Ethi7 Zzzz1 Ethi7 Zzzz1 Ethi7 Zzzz1",
    "Ethi7 Zzzz1 Ethi7 Zzzz1 Ethi7 Zzzz1 Cyrlw Zyyy2m Zzzzy Haniq Zzzz1 Hani2h Zzzzc",
    "Hani5y Zzzzq Zyyyl Hani1 Zyyy1 Hani1 Zyyyp Hani9 Zinh4 Hang2 Zyyy8 Hani4 Zyyy4 Zzzz1",
    "Hira2e Zzzz2 Zinh2 Zyyy2 Hira3 Zyyy1 Kana2i Zyyy2 Kana3 Zzzz5 Bopo17 Zzzz1 Hang2m",
    "Zzzz1 Zyyyg Bopow Zyyy12 Zzzz9 Zyyy1 Kanag Hangv Zzzz1 Zyyy1s Hangv Zyyy29 Kana1b",
    "Zyyy1 Kana2g Zyyy4o Hani534 Zyyy1s Hanig74 Yiiiwd Zzzz3 Yiii1j Zzzz9 Lisu1c Vaii8c",
    "Zzzzk Cyrl2o Bamu2g Zzzz8 Zyyyy Latn2u Zyyy3 Latn2a Zzzzk Latnf Sylo19 Zzzz3 Zyyya",
    "Zzzz6 Phag1k Zzzz8 Saur1y Zzzz8 Saurc Zzzz6 Devaw Kali1a Zyyy1 Kali1 Rjng10 Zzzzb",
    "Rjng1 Hangt Zzzz3 Java26 Zzzz1 Zyyy1 Javaa Zzzz4 Java2 Mymrv Zzzz1 Cham1j Zzzz9",
    "Chame Zzzz2 Chama Zzzz2 Cham4 Mymrw Tavt1v Zzzzo Tavt5 Mtein Zzzza Ethi6 Zzzz2 Ethi6",
    "Zzzz2 Ethi6 Zzzz9 Ethi7 Zzzz1 Ethi7 Zzzz1 Latn17 Zyyy1 Latn9 Grek1 Latn4 Zyyy2 Zzzz4",
    "Cher28 Mtei1a Zzzz2 Mteia Zzzz6 Hang8mc Zzzzc Hangn Zzzz4 Hang1d Zzzz6is Hania6",
    "Zzzz2 Hani2y Zzzz12 Latn7 Zzzzc Armn5 Zzzz5 Hebrq Zzzz1 Hebr5 Zzzz1 Hebr1 Zzzz1",
    "Hebr2 Zzzz1 Hebr2 Zzzz1 Hebra Arabdq Zyyy2 Arab40 Zzzzw Arabg Zinhg Zyyya Zzzz6",
    "Zinhe Cyrl2 Zyyyz Zzzz1 Zyyyj Zzzz1 Zyyy4 Zzzz4 Arab5 Zzzz1 Arab3r Zzzz2 Zyyy1 Zzzz1",
    "Zyyyw Latnq Zyyy6 Latnq Zyyyb Kanaa Zyyy1 Kana19 Zyyy2 Hangv Zzzz3 Hang6 Zzzz2 Hang6",
    "Zzzz2 Hang6 Zzzz2 Hang3 Zzzz3 Zyyy7 Zzzz1 Zyyy7 Zzzza Zyyy5 Zzzz2 Linbc Zzzz1 Linbq",
    "Zzzz1 Linbj Zzzz1 Linb2 Zzzz1 Linbf Zzzz2 Linbe Zzzzy Linb3f Zzzz5 Zyyy3 Zzzz4",
    "Zyyy19 Zzzz3 Zyyy9 Grek27 Zzzz1 Zyyyd Zzzz3 Grek1 Zzzz1b Zyyy19 Zinh1 Zzzz3m Lycit",
    "Zzzz3 Cari1d Zzzzf Zinh1 Zyyyr Zzzz4 Ital10 Zzzz9 Ital3 Gothr Zzzz5 Perm17 Zzzz5",
    "Ugaru Zzzz1 Ugar1 Xpeo10 Zzzz4 Xpeoe Zzzz16 Dsrt28 Shaw1c Osmau Zzzz2 Osmaa Zzzz6",
    "Osge10 Zzzz4 Osge10 Zzzz4 Elba14 Zzzz8 Aghb1g Zzzzb Aghb1 Vithb Zzzz1 Vithf Zzzz1",
    "Vith7 Zzzz1 Vith2 Zzzz1 Vithb Zzzz1 Vithf Zzzz1 Vith7 Zzzz1 Vith2 Zzzz3 Todr1g Zzzzc",
    "Lina8n Zzzz9 Linam Zzzza Lina8 Zzzzo Latn6 Zzzz1 Latn16 Zzzz1 Latn9 Zzzz1x Cprt6",
    "Zzzz2 Cprt1 Zzzz1 Cprt18 Zzzz1 Cprt2 Zzzz3 Cprt1 Zzzz2 Cprt1 Armim Zzzz1 Armi9 Palmw",
    "Nbatv Zzzz8 Nbat9 Zzzz1c Hatrj Zzzz1 Hatr2 Zzzz5 Hatr5 Phnxs Zzzz3 Phnx1 Lydiq Zzzz5",
    "Lydi1 Sidtq Zzzz12 Merow Merco Zzzz4 Merck Zzzz2 Merc1a Khar4 Zzzz1 Khar2 Zzzz5",
    "Khar8 Zzzz1 Khar3 Zzzz1 Khart Zzzz2 Khar3 Zzzz4 Khara Zzzz7 Khar9 Zzzz7 Sarbw Narbw",
    "Zzzzw Mani13 Zzzz4 Manic Zzzz9 Avst1i Zzzz3 Avst7 Prtim Zzzz2 Prti8 Phlij Zzzz5",
    "Phli8 Phlpi Zzzz7 Phlp4 Zzzzc Phlp7 Zzzz28 Orkh21 Zzzz1j Hung1f Zzzzd Hung1f Zzzz7",
    "Hung6 Rohg14 Zzzz8 Rohga Zzzz6 Gara12 Zzzz3 Garat Zzzz8 Gara2 Zzzz5s Arabv Zzzz1",
    "Yezi16 Zzzz1 Yezi3 Zzzz2 Yezi2 Zzzzg Arab6 Zzzz8 Arab9 Zzzzx Arab6 Sogo14 Zzzz8",
    "Sogd16 Zzzzm Ougrq Zzzz12 Chrss Zzzzk Elymn Zzzz9 Brah26 Zzzz4 Brah10 Zzzz9 Brah1",
    "Kthi1v Zzzza Kthi1 Zzzz2 Sorap Zzzz7 Soraa Zzzz6 Cakm1h Zzzz1 Cakmi Zzzz8 Mahj13",
    "Zzzz9 Shrd2o Zzzz1 Sinhk Zzzzb Khoji Zzzz1 Khoj1b Zzzz1q Mult7 Zzzz1 Mult1 Zzzz1",
    "Mult4 Zzzz1 Multf Zzzz1 Multb Zzzz6 Sind1n Zzzz5 Sinda Zzzz6 Gran4 Zzzz1 Gran8 Zzzz2",
    "Gran2 Zzzz2 Granm Zzzz1 Gran7 Zzzz1 Gran2 Zzzz1 Gran5 Zzzz1 Zinh1 Gran9 Zzzz2 Gran2",
    "Zzzz2 Gran3 Zzzz2 Gran1 Zzzz6 Gran1 Zzzz5 Gran7 Zzzz2 Gran7 Zzzz3 Gran5 Zzzzb Tutga",
    "Zzzz1 Tutg1 Zzzz2 Tutg1 Zzzz1 Tutg12 Zzzz1 Tutga Zzzz1 Tutg1 Zzzz2 Tutg1 Zzzz1 Tutg4",
    "Zzzz1 Tutga Zzzz1 Tutg2 Zzzz8 Tutg2 Zzzzt Newa2k Zzzz1 Newa5 Zzzzu Tirh20 Zzzz8",
    "Tirha Zzzz4m Sidd1i Zzzz2 Sidd12 Zzzzy Modi1x Zzzzb Modia Zzzz6 Mongd Zzzzj Takr1m",
    "Zzzz6 Takra Zzzz6 Mymrk Zzzzs Ahomr Zzzz2 Ahomf Zzzz4 Ahomn Zzzz55 Dogr1o Zzzz2s",
    "Wara2b Zzzzc Wara1 Diak7 Zzzz2 Diak1 Zzzz2 Diak8 Zzzz1 Diak2 Zzzz1 Diaku Zzzz1 Diak2",
    "Zzzz2 Diakc Zzzz9 Diaka Zzzz1y Nand8 Zzzz2 Nand1a Zzzz2 Nandb Zzzzr Zanb20 Zzzz8",
    "Soyo2b Zzzzd Cansg Pauc1l Zzzz7 Devaa Zzzz2e Shrd8 Zzzz2g Sunuy Zzzze Sunua Zzzz6",
    "Bhks9 Zzzz1 Bhks19 Zzzz1 Bhkse Zzzza Bhkst Zzzz3 Marcw Zzzz2 Marcm Zzzz1 Marce",
    "Zzzz21 Gonm7 Zzzz1 Gonm2 Zzzz1 Gonm18 Zzzz3 Gonm1 Zzzz1 Gonm2 Zzzz1 Gonm9 Zzzz8",
    "Gonma Zzzz6 Gong6 Zzzz1 Gong2 Zzzz1 Gong11 Zzzz1 Gong2 Zzzz1 Gong6 Zzzz7 Gonga Zzzz6",
    "Tols18 Zzzz4 Tolsa Zzzz6u Makap Zzzz7 Kawih Zzzz1 Kawi15 Zzzz3 Kawit Zzzz2d Lisu1",
    "Zzzzf Taml1e Zzzzd Taml1 Xsuxpm Zzzz2u Xsux33 Zzzz1 Xsux5 Zzzzb Xsux5g Zzzz218",
    "Cpmn2r Zzzzd Egypuu Zzzza Egyp32z Zzzz5 Hluwg7 Zzzz5a1 Gukh1m Zzzz1c6 Bamuft Zzzz7",
    "Mroov Zzzz1 Mrooa Zzzz4 Mroo2 Tnsa27 Zzzz1 Tnsaa Zzzz6 Bassu Zzzz2 Bass6 Zzzza",
    "Hmng1y Zzzza Hmnga Zzzz1 Hmng7 Zzzz1 Hmngl Zzzz5 Hmngj Zzzzc0 Krai1m Zzzz5i Medf2j",
    "Zzzz5 Berfp Zzzz2 Berfp Zzzz18 Plrd23 Zzzz4 Plrd1l Zzzz7 Plrdh Zzzz1s Tang1 Nshu1",
    "Hani2 Kits1 Zzzzb Hani7 Zzzz9 Tang5c0 Kitsd2 Zzzz15 Kits1 Tangv Zzzz2p Tang37",
    "Zzzz6pp Kana4 Zzzz1 Kana7 Zzzz1 Kana2 Zzzz1 Kana1 Hira7z Kana3 Zzzzf Hira1 Zzzzt",
    "Hira3 Zzzz2 Kana1 Zzzze Kana4 Zzzz8 Nshub0 Zzzz1s4 Dupl2z Zzzz5 Dupld Zzzz3 Dupl9",
    "Zzzz7 Dupla Zzzz2 Dupl4 Zyyy4 Zzzz318 Zyyy71 Zzzz3 Zyyyc4 Zzzz6 Zyyyn Zzzzf Zyyyh",
    "Zzzzf Zinh1a Zzzz2 Zinhn Zzzz9 Zyyy38 Zzzz1o Zyyy6u Zzzza Zyyy13 Zzzz2 Zyyy1q Zinh3",
    "Zyyyh Zinh8 Zyyy2 Zinh7 Zyyyu Zinh4 Zyyy1p Zzzzl Grek1y Zzzz3e Zyyyk Zzzzc Zyyyk",
    "Zzzzc Zyyy2f Zzzz9 Zyyyp Zzzz3r Zyyy2d Zzzz1 Zyyy1z Zzzz1 Zyyy2 Zzzz2 Zyyy1 Zzzz2",
    "Zyyy2 Zzzz2 Zyyy4 Zzzz1 Zyyyc Zzzz1 Zyyy1 Zzzz1 Zyyy7 Zzzz1 Zyyy1t Zzzz1 Zyyy4 Zzzz2",
    "Zyyy8 Zzzz1 Zyyy7 Zzzz1 Zyyys Zzzz1 Zyyy4 Zzzz1 Zyyy5 Zzzz1 Zyyy1 Zzzz3 Zyyy7 Zzzz1",
    "Zyyy9g Zzzz2 Zyyy84 Zzzz2 Zyyy1e Sgnwi4 Zzzzf Sgnw5 Zzzz1 Sgnwf Zzzzuo Latnv Zzzz6",
    "Latn6 Zzzz5x Glag7 Zzzz1 Glagh Zzzz2 Glag7 Zzzz1 Glag2 Zzzz1 Glag5 Zzzz5 Cyrl1q",
    "Zzzzx Cyrl1 Zzzz34 Hmnp19 Zzzz3 Hmnpe Zzzz2 Hmnpa Zzzz4 Hmnp2 Zzzz8w Totov Zzzzh",
    "Wcho1m Zzzz5 Wcho1 Zzzzcw Nagm16 Zzzz5y Onao17 Zzzz4 Onao1 Zzzz5c Tayov Zzzz1 Tayom",
    "Zzzz8 Tayo2 Zzzz68 Ethi7 Zzzz1 Ethi4 Zzzz1 Ethi2 Zzzz1 Ethif Zzzz1 Mend5h Zzzz2",
    "Mendg Zzzz15 Adlm24 Zzzz4 Adlma Zzzz4 Adlm2 Zzzzlt Zyyy1w Zzzz24 Zyyy1p Zzzz5e Arab4",
    "Zzzz1 Arabr Zzzz1 Arab2 Zzzz1 Arab1 Zzzz2 Arab1 Zzzz1 Araba Zzzz1 Arab4 Zzzz1 Arab1",
    "Zzzz1 Arab1 Zzzz6 Arab1 Zzzz4 Arab1 Zzzz1 Arab1 Zzzz1 Arab1 Zzzz1 Arab3 Zzzz1 Arab2",
    "Zzzz1 Arab1 Zzzz2 Arab1 Zzzz1 Arab1 Zzzz1 Arab1 Zzzz1 Arab1 Zzzz1 Arab1 Zzzz1 Arab2",
    "Zzzz1 Arab1 Zzzz2 Arab4 Zzzz1 Arab7 Zzzz1 Arab4 Zzzz1 Arab4 Zzzz1 Arab1 Zzzz1 Araba",
    "Zzzz1 Arabh Zzzz5 Arab3 Zzzz1 Arab5 Zzzz1 Arabh Zzzz1g Arab2 Zzzz7i Zyyy18 Zzzz4",
    "Zyyy2s Zzzzc Zyyyf Zzzz2 Zyyyf Zzzz1 Zyyyf Zzzz1 Zyyy11 Zzzza Zyyy4u Zzzz1k Zyyyq",
    "Hira1 Zyyy2 Zzzzd Zyyy18 Zzzz4 Zyyy9 Zzzz7 Zyyy2 Zzzze Zyyy6 Zzzz4a Zyyyrd Zzzz3",
    "Zyyyh Zzzz3 Zyyyd Zzzz3 Zyyy62 Zzzz6 Zyyyc Zzzz4 Zyyy1 Zzzzf Zyyyc Zzzz4 Zyyy1k",
    "Zzzz8 Zyyya Zzzz6 Zyyy14 Zzzz8 Zyyyu Zzzz2 Zyyyc Zzzz4 Zyyy2 Zzzze Zyyy9 Zzzz13",
    "Zyyy9k Zzzz8 Zyyye Zzzz2 Zyyyd Zzzz3 Zyyyb Zzzz3 Zyyy1l Zzzz1 Zyyy1 Zzzz4 Zyyyg",
    "Zzzz2 Zyyyc Zzzz4 Zyyya Zzzz7 Zyyy43 Zzzz1 Zyyy2v Zzzzsl Haniwyo Zzzzw Hani3dq Zzzz2",
    "Hani4ge Zzzz2 Hani5rl Zzzzf Haniha Zzzz1wi Hanif2 Zzzz15u Hani3t7 Zzzz5 Hani6ju",
    "Zzzzf5vr Zyyy1 Zzzzu Zyyy2o Zzzz3k Zinh6o Zzzz47bk"]

/-- The stretches whose code points belong to other scripts than their own, each as
the gap before it, the length, and the codes of its scripts. -/
def scriptExtensionLines : List String :=
  ["53:1:AvstCariCoptDuplElbaGeorGlagGongGothGrekHaniLatnLydiMahjPermShaw",
    "ec:1:BengCyrlDevaLatnLisuThaiToto a:1:BopoLatn 1:3:BopoLatn 1:1:LatnLisu",
    "9:1:LatnThai 1:1:BopoLatn 12:1:CherCoptCyrlGrekLatnPermTaleSunu",
    "0:1:CherCyrlGrekLatnOsgeTaleSunuTodr 0:1:CherCyrlLatnTfng 0:1:GlagLatnSyrcThaiSunu",
    "0:1:AghbCherCoptCyrlGothGrekLatnOsgeSyrcTfngTodr 0:1:CoptElbaGlagGothKanaLatn",
    "0:1:CyrlGrekLatnPermTfng 0:1:CoptDuplHebrLatnPermSyrcTaleTfngTodr",
    "0:1:ArmnCyrlDuplGothGrekHebrLatnPermSyrcTaleTfng 0:1:LatnTfng 0:1:DuplLatnSyrc",
    "0:1:CherCyrlLatnOsge 0:1:CherLatnTale 0:1:LatnSunu 0:1:EthiLatn 1:1:LatnSunu",
    "0:1:CyrlLatnTodr 1:1:GrekLatnPermTodr f:1:CherDuplKanaLatnSyrcTfng",
    "0:1:CherDuplLatnSyrc 0:1:LatnSyrc 7:1:LatnSyrcSunu 0:1:LatnSyrc 1:1:CherLatnSyrc",
    "0:1:AghbCherGothLatnSyrcThaiSunu g:1:Grek 2:1:Grek i:1:LatnOsge 5:1:AghbLatnTodr",
    "4:d:Latn 4:2:CoptGrek 7h:1:CyrlPerm 0:1:CyrlGlag 0:2:CyrlLatn 0:1:CyrlGlag",
    "75:1:ArmnGeorGlag 3m:1:ArabNkooRohgSyrcThaaYeziGara e:1:ArabNkooRohgSyrcThaaYeziGara",
    "0:1:ArabSyrcThaa 2:1:AdlmArabNkooRohgSyrcThaaYeziGara",
    "w:1:AdlmArabMandManiOugrPhlpRohgSogdSyrc a:b:ArabSyrc a:a:ArabThaaYezi 6:1:ArabSyrc",
    "2r:1:ArabRohg ho:1:BengDevaGranGujrGuruKndaLatnMlymNandNewaOryaShrdTamlTeluTirh",
    "0:1:BengDevaGranGujrGuruKndaLatnMlymNewaOryaTamlTeluTirh",
    "h:1:BengDevaDogrGongGonmGranGujrGuruKndaMahjMlymNandOryaSindSinhSyloTakrTamlTeluTirhOnao",
    "0:1:BengDevaDogrGongGonmGranGujrGuruKndaLimbMahjMlymNandOryaSindSinhSyloTakrTamlTeluTirhGukhOnao",
    "0:a:DevaDogrKthiMahj 3a:a:BengCakmSylo 3a:a:GuruMult 3a:a:GujrKhoj 6u:e:GranTaml",
    "6q:a:KndaNandTutg nk:a:CakmMymrTale 4x:1:GeorGlagLatn 167:3:Runr",
    "1z:2:BuhdHanoTagbTglg 5n:2:MongPhag 1:1:MongPhag y2:1:BengDevaGranKnda 0:1:Deva",
    "0:1:BengDevaGranKnda 0:1:DevaGranKnda 0:1:Deva 0:1:BengDevaNewaTeluTirh",
    "0:1:BengDevaTelu 0:1:DevaNewaShrd 0:1:BengDevaNewaTelu 0:1:DevaShrd",
    "0:1:DevaKndaMlymOryaTamlTelu 0:1:Deva 0:2:DevaShrd 0:2:Deva 0:1:DevaShrd",
    "0:1:BengDeva 0:1:DevaNewaTirh 0:6:Deva 0:1:DevaNandNewa 0:1:BengDevaShrd",
    "0:1:DevaNewa 0:1:Deva 0:1:BengDevaNewaShrd 0:4:Deva",
    "0:1:BengDevaGranKndaMlymNandOryaSinhTeluTirhTutg 0:1:DevaGran 0:1:DevaGranKndaTutg",
    "0:2:BengDeva 0:1:Beng 0:2:DevaGran 0:1:Nand 5h:2:Grek 1i:1:CyrlLatnSyrc 1:1:Syrc",
    "fo:1:LatnMongPhag v:1:AdlmArab a:1:CariGeorGlagHungLyciOrkh 2:1:CariGrekHungMero",
    "42:1:DevaGranLatn 2li:1:CoptLatn o:1:AvstOrkh 0:1:AvstCariGeorHungKthiLydiSamr",
    "a:1:Dupl 4:1:AdlmArabHung 1:1:CyrlGlag bw:g:HaniTang",
    "1:1:BopoHangHaniHiraKanaMongYiii 0:1:BopoHangHaniHiraKanaMongPhagYiii",
    "0:1:BopoHangHaniHiraKana 2:1:Hani 1:2:BopoHangHaniHiraKanaMongTibtYiii",
    "0:2:BopoHangHaniHiraKanaLisuMongTibtYiii 0:6:BopoHangHaniHiraKanaYiii",
    "1:1:BopoHangHaniHiraKana 0:8:BopoHangHaniHiraKanaYiii 0:4:BopoHangHaniHiraKana",
    "a:4:BopoHani 2:1:BopoHangHaniHiraKana 0:5:HiraKana 1:1:BopoHangHaniHiraKana",
    "4:2:HaniHiraKana 0:2:Hani 2h:4:HiraKana 3:1:HiraKana 2i:1:BopoHangHaniHiraKanaYiii",
    "0:1:HiraKana 43:g:Hani w:12:Hani 9:1:HaniTang 1c:14:Hani 1k:1d:Hani f:c:Hani",
    "1f:1:Hani 2g:p:Hani a:5:Hani 2o:v:Hani mls:1:CyrlGlag 40:8:HaniLatn",
    "88:3:DevaDogrGujrGuruKhojKndaKthiMahjMlymModiNandShrdSindTakrTirhTutg",
    "0:3:DevaDogrGujrGuruKhojKndaKthiMahjModiNandShrdSindTakrTirhTutg",
    "0:2:DevaDogrGujrGuruKhojKthiMahjModiSindTakrTirh",
    "0:1:DevaDogrGujrGuruKhojKthiMahjModiShrdSindTakrTirh",
    "0:1:DevaDogrGujrGuruKhojKthiMahjModiSindTakrTirh 53:1:BengDevaTutg 1:1:DevaTaml",
    "1m:1:KaliLatnMymr 4g:1:BugiJava gha:2:ArabNkoo 4y:1:ArabThaa a:1:ArabThaa",
    "1z:2:BopoHangHaniHiraKana 7u:5:BopoHangHaniHiraKanaYiii a:1:HiraKana 19:2:HiraKana",
    "9s:2:CpmnCprtLinb 0:1:CprtLinb 4:19:CprtLinaLinb 3:9:CprtLinb bk:s:ArabCopt",
    "1km:1:ManiOugr 1la:1:GranTaml 1:1:GranTaml 1j:2:GranTaml 2hf:2:GranTaml 1:1:GranTaml",
    "uz0:4:Dupl 4ho:i:Hani 63i:2:Hani"]

/-- The names of each script, the four-letter code first. -/
def scriptNames : List (List String) :=
  [["Adlm", "Adlam"], ["Aghb", "Caucasian_Albanian"], ["Ahom"], ["Arab", "Arabic"],
    ["Armi", "Imperial_Aramaic"], ["Armn", "Armenian"], ["Avst", "Avestan"],
    ["Bali", "Balinese"], ["Bamu", "Bamum"], ["Bass", "Bassa_Vah"], ["Batk", "Batak"],
    ["Beng", "Bengali"], ["Bhks", "Bhaiksuki"], ["Bopo", "Bopomofo"], ["Brah", "Brahmi"],
    ["Brai", "Braille"], ["Bugi", "Buginese"], ["Buhd", "Buhid"], ["Cakm", "Chakma"],
    ["Cans", "Canadian_Aboriginal"], ["Cari", "Carian"], ["Cham"], ["Cher", "Cherokee"],
    ["Chrs", "Chorasmian"], ["Copt", "Coptic", "Qaac"], ["Cpmn", "Cypro_Minoan"],
    ["Cprt", "Cypriot"], ["Cyrl", "Cyrillic"], ["Deva", "Devanagari"], ["Diak", "Dives_Akuru"],
    ["Dogr", "Dogra"], ["Dsrt", "Deseret"], ["Dupl", "Duployan"],
    ["Egyp", "Egyptian_Hieroglyphs"], ["Elba", "Elbasan"], ["Elym", "Elymaic"],
    ["Ethi", "Ethiopic"], ["Geor", "Georgian"], ["Glag", "Glagolitic"],
    ["Gong", "Gunjala_Gondi"], ["Gonm", "Masaram_Gondi"], ["Goth", "Gothic"],
    ["Gran", "Grantha"], ["Grek", "Greek"], ["Gujr", "Gujarati"], ["Guru", "Gurmukhi"],
    ["Hang", "Hangul"], ["Hani", "Han"], ["Hano", "Hanunoo"], ["Hatr", "Hatran"],
    ["Hebr", "Hebrew"], ["Hira", "Hiragana"], ["Hluw", "Anatolian_Hieroglyphs"],
    ["Hmng", "Pahawh_Hmong"], ["Hmnp", "Nyiakeng_Puachue_Hmong"], ["Hung", "Old_Hungarian"],
    ["Ital", "Old_Italic"], ["Java", "Javanese"], ["Kali", "Kayah_Li"], ["Kana", "Katakana"],
    ["Kawi"], ["Khar", "Kharoshthi"], ["Khmr", "Khmer"], ["Khoj", "Khojki"],
    ["Kits", "Khitan_Small_Script"], ["Knda", "Kannada"], ["Kthi", "Kaithi"],
    ["Lana", "Tai_Tham"], ["Laoo", "Lao"], ["Latn", "Latin"], ["Lepc", "Lepcha"],
    ["Limb", "Limbu"], ["Lina", "Linear_A"], ["Linb", "Linear_B"], ["Lisu"],
    ["Lyci", "Lycian"], ["Lydi", "Lydian"], ["Mahj", "Mahajani"], ["Maka", "Makasar"],
    ["Mand", "Mandaic"], ["Mani", "Manichaean"], ["Marc", "Marchen"], ["Medf", "Medefaidrin"],
    ["Mend", "Mende_Kikakui"], ["Merc", "Meroitic_Cursive"], ["Mero", "Meroitic_Hieroglyphs"],
    ["Mlym", "Malayalam"], ["Modi"], ["Mong", "Mongolian"], ["Mroo", "Mro"],
    ["Mtei", "Meetei_Mayek"], ["Mult", "Multani"], ["Mymr", "Myanmar"],
    ["Nagm", "Nag_Mundari"], ["Nand", "Nandinagari"], ["Narb", "Old_North_Arabian"],
    ["Nbat", "Nabataean"], ["Newa"], ["Nkoo", "Nko"], ["Nshu", "Nushu"], ["Ogam", "Ogham"],
    ["Olck", "Ol_Chiki"], ["Orkh", "Old_Turkic"], ["Orya", "Oriya"], ["Osge", "Osage"],
    ["Osma", "Osmanya"], ["Ougr", "Old_Uyghur"], ["Palm", "Palmyrene"],
    ["Pauc", "Pau_Cin_Hau"], ["Perm", "Old_Permic"], ["Phag", "Phags_Pa"],
    ["Phli", "Inscriptional_Pahlavi"], ["Phlp", "Psalter_Pahlavi"], ["Phnx", "Phoenician"],
    ["Plrd", "Miao"], ["Prti", "Inscriptional_Parthian"], ["Rjng", "Rejang"],
    ["Rohg", "Hanifi_Rohingya"], ["Runr", "Runic"], ["Samr", "Samaritan"],
    ["Sarb", "Old_South_Arabian"], ["Saur", "Saurashtra"], ["Sgnw", "SignWriting"],
    ["Shaw", "Shavian"], ["Shrd", "Sharada"], ["Sidd", "Siddham"], ["Sind", "Khudawadi"],
    ["Sinh", "Sinhala"], ["Sogd", "Sogdian"], ["Sogo", "Old_Sogdian"],
    ["Sora", "Sora_Sompeng"], ["Soyo", "Soyombo"], ["Sund", "Sundanese"],
    ["Sylo", "Syloti_Nagri"], ["Syrc", "Syriac"], ["Tagb", "Tagbanwa"], ["Takr", "Takri"],
    ["Tale", "Tai_Le"], ["Talu", "New_Tai_Lue"], ["Taml", "Tamil"], ["Tang", "Tangut"],
    ["Tavt", "Tai_Viet"], ["Telu", "Telugu"], ["Tfng", "Tifinagh"], ["Tglg", "Tagalog"],
    ["Thaa", "Thaana"], ["Thai"], ["Tibt", "Tibetan"], ["Tirh", "Tirhuta"], ["Tnsa", "Tangsa"],
    ["Toto"], ["Ugar", "Ugaritic"], ["Vaii", "Vai"], ["Vith", "Vithkuqi"],
    ["Wara", "Warang_Citi"], ["Wcho", "Wancho"], ["Xpeo", "Old_Persian"],
    ["Xsux", "Cuneiform"], ["Yezi", "Yezidi"], ["Yiii", "Yi"], ["Zanb", "Zanabazar_Square"],
    ["Zinh", "Inherited", "Qaai"], ["Zyyy", "Common"], ["Zzzz", "Unknown"], ["Gara", "Garay"],
    ["Gukh", "Gurung_Khema"], ["Krai", "Kirat_Rai"], ["Onao", "Ol_Onal"], ["Sunu", "Sunuwar"],
    ["Todr", "Todhri"], ["Tutg", "Tulu_Tigalari"], ["Berf", "Beria_Erfe"], ["Sidt", "Sidetic"],
    ["Tayo", "Tai_Yo"], ["Tols", "Tolong_Siki"]]

end Unicode

end BotHost
