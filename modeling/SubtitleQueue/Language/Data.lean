/-!
The data of the language catalogue: every ISO 639-3 code with its reference name and, where one
exists, its ISO 639-1 code, in one list for each initial letter of the three-letter code.
Names are the reference names without a parenthesised qualifier, so `ell` is "Modern Greek".
-/

namespace SubtitleQueue.Language

/-- One language of the catalogue. -/
structure Entry where
  code : String
  twoLetter : Option String
  name : String
  deriving Repr, Inhabited, DecidableEq

/-- The languages whose three-letter code starts with `a`, in code order. -/
def entriesA : List Entry := [
  ⟨"aaa", none, "Ghotuo"⟩,
  ⟨"aab", none, "Alumu-Tesu"⟩,
  ⟨"aac", none, "Ari"⟩,
  ⟨"aad", none, "Amal"⟩,
  ⟨"aae", none, "Arbëreshë Albanian"⟩,
  ⟨"aaf", none, "Aranadan"⟩,
  ⟨"aag", none, "Ambrak"⟩,
  ⟨"aah", none, "Abu' Arapesh"⟩,
  ⟨"aai", none, "Arifama-Miniafia"⟩,
  ⟨"aak", none, "Ankave"⟩,
  ⟨"aal", none, "Afade"⟩,
  ⟨"aan", none, "Anambé"⟩,
  ⟨"aao", none, "Algerian Saharan Arabic"⟩,
  ⟨"aap", none, "Pará Arára"⟩,
  ⟨"aaq", none, "Eastern Abnaki"⟩,
  ⟨"aar", some "aa", "Afar"⟩,
  ⟨"aas", none, "Aasáx"⟩,
  ⟨"aat", none, "Arvanitika Albanian"⟩,
  ⟨"aau", none, "Abau"⟩,
  ⟨"aaw", none, "Solong"⟩,
  ⟨"aax", none, "Mandobo Atas"⟩,
  ⟨"aaz", none, "Amarasi"⟩,
  ⟨"aba", none, "Abé"⟩,
  ⟨"abb", none, "Bankon"⟩,
  ⟨"abc", none, "Ambala Ayta"⟩,
  ⟨"abd", none, "Manide"⟩,
  ⟨"abe", none, "Western Abnaki"⟩,
  ⟨"abf", none, "Abai Sungai"⟩,
  ⟨"abg", none, "Abaga"⟩,
  ⟨"abh", none, "Tajiki Arabic"⟩,
  ⟨"abi", none, "Abidji"⟩,
  ⟨"abj", none, "Aka-Bea"⟩,
  ⟨"abk", some "ab", "Abkhazian"⟩,
  ⟨"abl", none, "Lampung Nyo"⟩,
  ⟨"abm", none, "Abanyom"⟩,
  ⟨"abn", none, "Abua"⟩,
  ⟨"abo", none, "Abon"⟩,
  ⟨"abp", none, "Abellen Ayta"⟩,
  ⟨"abq", none, "Abaza"⟩,
  ⟨"abr", none, "Abron"⟩,
  ⟨"abs", none, "Ambonese Malay"⟩,
  ⟨"abt", none, "Ambulas"⟩,
  ⟨"abu", none, "Abure"⟩,
  ⟨"abv", none, "Baharna Arabic"⟩,
  ⟨"abw", none, "Pal"⟩,
  ⟨"abx", none, "Inabaknon"⟩,
  ⟨"aby", none, "Aneme Wake"⟩,
  ⟨"abz", none, "Abui"⟩,
  ⟨"aca", none, "Achagua"⟩,
  ⟨"acb", none, "Áncá"⟩,
  ⟨"acd", none, "Gikyode"⟩,
  ⟨"ace", none, "Achinese"⟩,
  ⟨"acf", none, "Saint Lucian Creole French"⟩,
  ⟨"ach", none, "Acoli"⟩,
  ⟨"aci", none, "Aka-Cari"⟩,
  ⟨"ack", none, "Aka-Kora"⟩,
  ⟨"acl", none, "Akar-Bale"⟩,
  ⟨"acm", none, "Mesopotamian Arabic"⟩,
  ⟨"acn", none, "Achang"⟩,
  ⟨"acp", none, "Eastern Acipa"⟩,
  ⟨"acq", none, "Ta'izzi-Adeni Arabic"⟩,
  ⟨"acr", none, "Achi"⟩,
  ⟨"acs", none, "Acroá"⟩,
  ⟨"act", none, "Achterhoeks"⟩,
  ⟨"acu", none, "Achuar-Shiwiar"⟩,
  ⟨"acv", none, "Achumawi"⟩,
  ⟨"acw", none, "Hijazi Arabic"⟩,
  ⟨"acx", none, "Omani Arabic"⟩,
  ⟨"acy", none, "Cypriot Arabic"⟩,
  ⟨"acz", none, "Acheron"⟩,
  ⟨"ada", none, "Adangme"⟩,
  ⟨"adb", none, "Atauran"⟩,
  ⟨"add", none, "Lidzonka"⟩,
  ⟨"ade", none, "Adele"⟩,
  ⟨"adf", none, "Dhofari Arabic"⟩,
  ⟨"adg", none, "Andegerebinha"⟩,
  ⟨"adh", none, "Adhola"⟩,
  ⟨"adi", none, "Adi"⟩,
  ⟨"adj", none, "Adioukrou"⟩,
  ⟨"adl", none, "Galo"⟩,
  ⟨"adn", none, "Adang"⟩,
  ⟨"ado", none, "Abu"⟩,
  ⟨"adq", none, "Adangbe"⟩,
  ⟨"adr", none, "Adonara"⟩,
  ⟨"ads", none, "Adamorobe Sign Language"⟩,
  ⟨"adt", none, "Adnyamathanha"⟩,
  ⟨"adu", none, "Aduge"⟩,
  ⟨"adw", none, "Amundava"⟩,
  ⟨"adx", none, "Amdo Tibetan"⟩,
  ⟨"ady", none, "Adyghe"⟩,
  ⟨"adz", none, "Adzera"⟩,
  ⟨"aea", none, "Areba"⟩,
  ⟨"aeb", none, "Tunisian Arabic"⟩,
  ⟨"aec", none, "Saidi Arabic"⟩,
  ⟨"aed", none, "Argentine Sign Language"⟩,
  ⟨"aee", none, "Northeast Pashai"⟩,
  ⟨"aek", none, "Haeke"⟩,
  ⟨"ael", none, "Ambele"⟩,
  ⟨"aem", none, "Arem"⟩,
  ⟨"aen", none, "Armenian Sign Language"⟩,
  ⟨"aeq", none, "Aer"⟩,
  ⟨"aer", none, "Eastern Arrernte"⟩,
  ⟨"aes", none, "Alsea"⟩,
  ⟨"aeu", none, "Akeu"⟩,
  ⟨"aew", none, "Ambakich"⟩,
  ⟨"aey", none, "Amele"⟩,
  ⟨"aez", none, "Aeka"⟩,
  ⟨"afb", none, "Gulf Arabic"⟩,
  ⟨"afd", none, "Andai"⟩,
  ⟨"afe", none, "Putukwam"⟩,
  ⟨"afg", none, "Afghan Sign Language"⟩,
  ⟨"afh", none, "Afrihili"⟩,
  ⟨"afi", none, "Akrukay"⟩,
  ⟨"afk", none, "Nanubae"⟩,
  ⟨"afn", none, "Defaka"⟩,
  ⟨"afo", none, "Eloyi"⟩,
  ⟨"afp", none, "Tapei"⟩,
  ⟨"afr", some "af", "Afrikaans"⟩,
  ⟨"afs", none, "Afro-Seminole Creole"⟩,
  ⟨"aft", none, "Afitti"⟩,
  ⟨"afu", none, "Awutu"⟩,
  ⟨"afz", none, "Obokuitai"⟩,
  ⟨"aga", none, "Aguano"⟩,
  ⟨"agb", none, "Legbo"⟩,
  ⟨"agc", none, "Agatu"⟩,
  ⟨"agd", none, "Agarabi"⟩,
  ⟨"age", none, "Angal"⟩,
  ⟨"agf", none, "Arguni"⟩,
  ⟨"agg", none, "Angor"⟩,
  ⟨"agh", none, "Ngelima"⟩,
  ⟨"agi", none, "Agariya"⟩,
  ⟨"agj", none, "Argobba"⟩,
  ⟨"agk", none, "Isarog Agta"⟩,
  ⟨"agl", none, "Fembe"⟩,
  ⟨"agm", none, "Angaataha"⟩,
  ⟨"agn", none, "Agutaynen"⟩,
  ⟨"ago", none, "Tainae"⟩,
  ⟨"agq", none, "Aghem"⟩,
  ⟨"agr", none, "Aguaruna"⟩,
  ⟨"ags", none, "Esimbi"⟩,
  ⟨"agt", none, "Central Cagayan Agta"⟩,
  ⟨"agu", none, "Aguacateco"⟩,
  ⟨"agv", none, "Remontado Dumagat"⟩,
  ⟨"agw", none, "Kahua"⟩,
  ⟨"agx", none, "Aghul"⟩,
  ⟨"agy", none, "Southern Alta"⟩,
  ⟨"agz", none, "Mt. Iriga Agta"⟩,
  ⟨"aha", none, "Ahanta"⟩,
  ⟨"ahb", none, "Axamb"⟩,
  ⟨"ahg", none, "Qimant"⟩,
  ⟨"ahh", none, "Aghu"⟩,
  ⟨"ahi", none, "Tiagbamrin Aizi"⟩,
  ⟨"ahk", none, "Akha"⟩,
  ⟨"ahl", none, "Igo"⟩,
  ⟨"ahm", none, "Mobumrin Aizi"⟩,
  ⟨"ahn", none, "Àhàn"⟩,
  ⟨"aho", none, "Ahom"⟩,
  ⟨"ahp", none, "Aproumu Aizi"⟩,
  ⟨"ahr", none, "Ahirani"⟩,
  ⟨"ahs", none, "Ashe"⟩,
  ⟨"aht", none, "Ahtena"⟩,
  ⟨"aia", none, "Arosi"⟩,
  ⟨"aib", none, "Ainu"⟩,
  ⟨"aic", none, "Ainbai"⟩,
  ⟨"aid", none, "Alngith"⟩,
  ⟨"aie", none, "Amara"⟩,
  ⟨"aif", none, "Agi"⟩,
  ⟨"aig", none, "Antigua and Barbuda Creole English"⟩,
  ⟨"aih", none, "Ai-Cham"⟩,
  ⟨"aii", none, "Assyrian Neo-Aramaic"⟩,
  ⟨"aij", none, "Lishanid Noshan"⟩,
  ⟨"aik", none, "Ake"⟩,
  ⟨"ail", none, "Aimele"⟩,
  ⟨"aim", none, "Aimol"⟩,
  ⟨"ain", none, "Ainu"⟩,
  ⟨"aio", none, "Aiton"⟩,
  ⟨"aip", none, "Burumakok"⟩,
  ⟨"aiq", none, "Aimaq"⟩,
  ⟨"air", none, "Airoran"⟩,
  ⟨"ait", none, "Arikem"⟩,
  ⟨"aiw", none, "Aari"⟩,
  ⟨"aix", none, "Aighon"⟩,
  ⟨"aiy", none, "Ali"⟩,
  ⟨"aja", none, "Aja"⟩,
  ⟨"ajg", none, "Aja"⟩,
  ⟨"aji", none, "Ajië"⟩,
  ⟨"ajn", none, "Andajin"⟩,
  ⟨"ajp", none, "South Levantine Arabic"⟩,
  ⟨"ajs", none, "Algerian Jewish Sign Language"⟩,
  ⟨"aju", none, "Judeo-Moroccan Arabic"⟩,
  ⟨"ajw", none, "Ajawa"⟩,
  ⟨"ajz", none, "Amri Karbi"⟩,
  ⟨"aka", some "ak", "Akan"⟩,
  ⟨"akb", none, "Batak Angkola"⟩,
  ⟨"akc", none, "Mpur"⟩,
  ⟨"akd", none, "Ukpet-Ehom"⟩,
  ⟨"ake", none, "Akawaio"⟩,
  ⟨"akf", none, "Akpa"⟩,
  ⟨"akg", none, "Anakalangu"⟩,
  ⟨"akh", none, "Angal Heneng"⟩,
  ⟨"aki", none, "Aiome"⟩,
  ⟨"akj", none, "Aka-Jeru"⟩,
  ⟨"akk", none, "Akkadian"⟩,
  ⟨"akl", none, "Aklanon"⟩,
  ⟨"akm", none, "Aka-Bo"⟩,
  ⟨"ako", none, "Akurio"⟩,
  ⟨"akp", none, "Siwu"⟩,
  ⟨"akq", none, "Ak"⟩,
  ⟨"akr", none, "Araki"⟩,
  ⟨"aks", none, "Akaselem"⟩,
  ⟨"akt", none, "Akolet"⟩,
  ⟨"aku", none, "Akum"⟩,
  ⟨"akv", none, "Akhvakh"⟩,
  ⟨"akw", none, "Akwa"⟩,
  ⟨"akx", none, "Aka-Kede"⟩,
  ⟨"aky", none, "Aka-Kol"⟩,
  ⟨"akz", none, "Alabama"⟩,
  ⟨"ala", none, "Alago"⟩,
  ⟨"alc", none, "Qawasqar"⟩,
  ⟨"ald", none, "Alladian"⟩,
  ⟨"ale", none, "Aleut"⟩,
  ⟨"alf", none, "Alege"⟩,
  ⟨"alh", none, "Alawa"⟩,
  ⟨"ali", none, "Amaimon"⟩,
  ⟨"alj", none, "Alangan"⟩,
  ⟨"alk", none, "Alak"⟩,
  ⟨"all", none, "Allar"⟩,
  ⟨"alm", none, "Amblong"⟩,
  ⟨"aln", none, "Gheg Albanian"⟩,
  ⟨"alo", none, "Larike-Wakasihu"⟩,
  ⟨"alp", none, "Alune"⟩,
  ⟨"alq", none, "Algonquin"⟩,
  ⟨"alr", none, "Alutor"⟩,
  ⟨"als", none, "Tosk Albanian"⟩,
  ⟨"alt", none, "Southern Altai"⟩,
  ⟨"alu", none, "'Are'are"⟩,
  ⟨"alw", none, "Alaba-K’abeena"⟩,
  ⟨"alx", none, "Amol"⟩,
  ⟨"aly", none, "Alyawarr"⟩,
  ⟨"alz", none, "Alur"⟩,
  ⟨"ama", none, "Amanayé"⟩,
  ⟨"amb", none, "Ambo"⟩,
  ⟨"amc", none, "Amahuaca"⟩,
  ⟨"ame", none, "Yanesha'"⟩,
  ⟨"amf", none, "Hamer-Banna"⟩,
  ⟨"amg", none, "Amurdak"⟩,
  ⟨"amh", some "am", "Amharic"⟩,
  ⟨"ami", none, "Amis"⟩,
  ⟨"amj", none, "Amdang"⟩,
  ⟨"amk", none, "Ambai"⟩,
  ⟨"aml", none, "War-Jaintia"⟩,
  ⟨"amm", none, "Ama"⟩,
  ⟨"amn", none, "Amanab"⟩,
  ⟨"amo", none, "Amo"⟩,
  ⟨"amp", none, "Alamblak"⟩,
  ⟨"amq", none, "Amahai"⟩,
  ⟨"amr", none, "Amarakaeri"⟩,
  ⟨"ams", none, "Southern Amami-Oshima"⟩,
  ⟨"amt", none, "Amto"⟩,
  ⟨"amu", none, "Guerrero Amuzgo"⟩,
  ⟨"amv", none, "Ambelau"⟩,
  ⟨"amw", none, "Western Neo-Aramaic"⟩,
  ⟨"amx", none, "Anmatyerre"⟩,
  ⟨"amy", none, "Ami"⟩,
  ⟨"amz", none, "Atampaya"⟩,
  ⟨"ana", none, "Andaqui"⟩,
  ⟨"anb", none, "Andoa"⟩,
  ⟨"anc", none, "Ngas"⟩,
  ⟨"and", none, "Ansus"⟩,
  ⟨"ane", none, "Xârâcùù"⟩,
  ⟨"anf", none, "Animere"⟩,
  ⟨"ang", none, "Old English"⟩,
  ⟨"anh", none, "Nend"⟩,
  ⟨"ani", none, "Andi"⟩,
  ⟨"anj", none, "Anor"⟩,
  ⟨"ank", none, "Goemai"⟩,
  ⟨"anl", none, "Anu-Hkongso Chin"⟩,
  ⟨"anm", none, "Anal"⟩,
  ⟨"ann", none, "Obolo"⟩,
  ⟨"ano", none, "Andoque"⟩,
  ⟨"anp", none, "Angika"⟩,
  ⟨"anq", none, "Jarawa"⟩,
  ⟨"anr", none, "Andh"⟩,
  ⟨"ans", none, "Anserma"⟩,
  ⟨"ant", none, "Antakarinya"⟩,
  ⟨"anu", none, "Anuak"⟩,
  ⟨"anv", none, "Denya"⟩,
  ⟨"anw", none, "Anaang"⟩,
  ⟨"anx", none, "Andra-Hus"⟩,
  ⟨"any", none, "Anyin"⟩,
  ⟨"anz", none, "Anem"⟩,
  ⟨"aoa", none, "Angolar"⟩,
  ⟨"aob", none, "Abom"⟩,
  ⟨"aoc", none, "Pemon"⟩,
  ⟨"aod", none, "Andarum"⟩,
  ⟨"aoe", none, "Angal Enen"⟩,
  ⟨"aof", none, "Bragat"⟩,
  ⟨"aog", none, "Angoram"⟩,
  ⟨"aoi", none, "Anindilyakwa"⟩,
  ⟨"aoj", none, "Mufian"⟩,
  ⟨"aok", none, "Arhö"⟩,
  ⟨"aol", none, "Alor"⟩,
  ⟨"aom", none, "Ömie"⟩,
  ⟨"aon", none, "Bumbita Arapesh"⟩,
  ⟨"aor", none, "Aore"⟩,
  ⟨"aos", none, "Taikat"⟩,
  ⟨"aot", none, "Atong"⟩,
  ⟨"aou", none, "A'ou"⟩,
  ⟨"aox", none, "Atorada"⟩,
  ⟨"aoz", none, "Uab Meto"⟩,
  ⟨"apb", none, "Sa'a"⟩,
  ⟨"apc", none, "North Levantine Arabic"⟩,
  ⟨"apd", none, "Sudanese Arabic"⟩,
  ⟨"ape", none, "Bukiyip"⟩,
  ⟨"apf", none, "Pahanan Agta"⟩,
  ⟨"apg", none, "Ampanang"⟩,
  ⟨"aph", none, "Athpariya"⟩,
  ⟨"api", none, "Apiaká"⟩,
  ⟨"apj", none, "Jicarilla Apache"⟩,
  ⟨"apk", none, "Kiowa Apache"⟩,
  ⟨"apl", none, "Lipan Apache"⟩,
  ⟨"apm", none, "Mescalero-Chiricahua Apache"⟩,
  ⟨"apn", none, "Apinayé"⟩,
  ⟨"apo", none, "Ambul"⟩,
  ⟨"app", none, "Apma"⟩,
  ⟨"apq", none, "A-Pucikwar"⟩,
  ⟨"apr", none, "Arop-Lokep"⟩,
  ⟨"aps", none, "Arop-Sissano"⟩,
  ⟨"apt", none, "Apatani"⟩,
  ⟨"apu", none, "Apurinã"⟩,
  ⟨"apv", none, "Alapmunte"⟩,
  ⟨"apw", none, "Western Apache"⟩,
  ⟨"apx", none, "Aputai"⟩,
  ⟨"apy", none, "Apalaí"⟩,
  ⟨"apz", none, "Safeyoka"⟩,
  ⟨"aqc", none, "Archi"⟩,
  ⟨"aqd", none, "Ampari Dogon"⟩,
  ⟨"aqg", none, "Arigidi"⟩,
  ⟨"aqm", none, "Atohwaim"⟩,
  ⟨"aqn", none, "Northern Alta"⟩,
  ⟨"aqp", none, "Atakapa"⟩,
  ⟨"aqr", none, "Arhâ"⟩,
  ⟨"aqt", none, "Angaité"⟩,
  ⟨"aqz", none, "Akuntsu"⟩,
  ⟨"ara", some "ar", "Arabic"⟩,
  ⟨"arb", none, "Standard Arabic"⟩,
  ⟨"arc", none, "Official Aramaic"⟩,
  ⟨"ard", none, "Arabana"⟩,
  ⟨"are", none, "Western Arrarnta"⟩,
  ⟨"arg", some "an", "Aragonese"⟩,
  ⟨"arh", none, "Arhuaco"⟩,
  ⟨"ari", none, "Arikara"⟩,
  ⟨"arj", none, "Arapaso"⟩,
  ⟨"ark", none, "Arikapú"⟩,
  ⟨"arl", none, "Arabela"⟩,
  ⟨"arn", none, "Mapudungun"⟩,
  ⟨"aro", none, "Araona"⟩,
  ⟨"arp", none, "Arapaho"⟩,
  ⟨"arq", none, "Algerian Arabic"⟩,
  ⟨"arr", none, "Karo"⟩,
  ⟨"ars", none, "Najdi Arabic"⟩,
  ⟨"aru", none, "Aruá"⟩,
  ⟨"arv", none, "Arbore"⟩,
  ⟨"arw", none, "Arawak"⟩,
  ⟨"arx", none, "Aruá"⟩,
  ⟨"ary", none, "Moroccan Arabic"⟩,
  ⟨"arz", none, "Egyptian Arabic"⟩,
  ⟨"asa", none, "Asu"⟩,
  ⟨"asb", none, "Assiniboine"⟩,
  ⟨"asc", none, "Casuarina Coast Asmat"⟩,
  ⟨"ase", none, "American Sign Language"⟩,
  ⟨"asf", none, "Auslan"⟩,
  ⟨"asg", none, "Cishingini"⟩,
  ⟨"ash", none, "Abishira"⟩,
  ⟨"asi", none, "Buruwai"⟩,
  ⟨"asj", none, "Sari"⟩,
  ⟨"ask", none, "Ashkun"⟩,
  ⟨"asl", none, "Asilulu"⟩,
  ⟨"asm", some "as", "Assamese"⟩,
  ⟨"asn", none, "Xingú Asuriní"⟩,
  ⟨"aso", none, "Dano"⟩,
  ⟨"asp", none, "Algerian Sign Language"⟩,
  ⟨"asq", none, "Austrian Sign Language"⟩,
  ⟨"asr", none, "Asuri"⟩,
  ⟨"ass", none, "Ipulo"⟩,
  ⟨"ast", none, "Asturian"⟩,
  ⟨"asu", none, "Tocantins Asurini"⟩,
  ⟨"asv", none, "Asoa"⟩,
  ⟨"asw", none, "Australian Aborigines Sign Language"⟩,
  ⟨"asx", none, "Muratayak"⟩,
  ⟨"asy", none, "Yaosakor Asmat"⟩,
  ⟨"asz", none, "As"⟩,
  ⟨"ata", none, "Pele-Ata"⟩,
  ⟨"atb", none, "Zaiwa"⟩,
  ⟨"atc", none, "Atsahuaca"⟩,
  ⟨"atd", none, "Ata Manobo"⟩,
  ⟨"ate", none, "Atemble"⟩,
  ⟨"atg", none, "Ivbie North-Okpela-Arhe"⟩,
  ⟨"ati", none, "Attié"⟩,
  ⟨"atj", none, "Atikamekw"⟩,
  ⟨"atk", none, "Ati"⟩,
  ⟨"atl", none, "Mt. Iraya Agta"⟩,
  ⟨"atm", none, "Ata"⟩,
  ⟨"atn", none, "Ashtiani"⟩,
  ⟨"ato", none, "Atong"⟩,
  ⟨"atp", none, "Pudtol Atta"⟩,
  ⟨"atq", none, "Aralle-Tabulahan"⟩,
  ⟨"atr", none, "Waimiri-Atroari"⟩,
  ⟨"ats", none, "Gros Ventre"⟩,
  ⟨"att", none, "Pamplona Atta"⟩,
  ⟨"atu", none, "Reel"⟩,
  ⟨"atv", none, "Northern Altai"⟩,
  ⟨"atw", none, "Atsugewi"⟩,
  ⟨"atx", none, "Arutani"⟩,
  ⟨"aty", none, "Aneityum"⟩,
  ⟨"atz", none, "Arta"⟩,
  ⟨"aua", none, "Asumboa"⟩,
  ⟨"aub", none, "Alugu"⟩,
  ⟨"auc", none, "Waorani"⟩,
  ⟨"aud", none, "Anuta"⟩,
  ⟨"aug", none, "Aguna"⟩,
  ⟨"auh", none, "Aushi"⟩,
  ⟨"aui", none, "Anuki"⟩,
  ⟨"auj", none, "Awjilah"⟩,
  ⟨"auk", none, "Heyo"⟩,
  ⟨"aul", none, "Aulua"⟩,
  ⟨"aum", none, "Asu"⟩,
  ⟨"aun", none, "Molmo One"⟩,
  ⟨"auo", none, "Auyokawa"⟩,
  ⟨"aup", none, "Makayam"⟩,
  ⟨"auq", none, "Anus"⟩,
  ⟨"aur", none, "Aruek"⟩,
  ⟨"aut", none, "Austral"⟩,
  ⟨"auu", none, "Auye"⟩,
  ⟨"auw", none, "Awyi"⟩,
  ⟨"aux", none, "Aurá"⟩,
  ⟨"auy", none, "Awiyaana"⟩,
  ⟨"auz", none, "Uzbeki Arabic"⟩,
  ⟨"ava", some "av", "Avaric"⟩,
  ⟨"avb", none, "Avau"⟩,
  ⟨"avd", none, "Alviri-Vidari"⟩,
  ⟨"ave", some "ae", "Avestan"⟩,
  ⟨"avi", none, "Avikam"⟩,
  ⟨"avk", none, "Kotava"⟩,
  ⟨"avl", none, "Eastern Egyptian Bedawi Arabic"⟩,
  ⟨"avm", none, "Angkamuthi"⟩,
  ⟨"avn", none, "Avatime"⟩,
  ⟨"avo", none, "Agavotaguerra"⟩,
  ⟨"avs", none, "Aushiri"⟩,
  ⟨"avt", none, "Au"⟩,
  ⟨"avu", none, "Avokaya"⟩,
  ⟨"avv", none, "Avá-Canoeiro"⟩,
  ⟨"awa", none, "Awadhi"⟩,
  ⟨"awb", none, "Awa"⟩,
  ⟨"awc", none, "Cicipu"⟩,
  ⟨"awe", none, "Awetí"⟩,
  ⟨"awg", none, "Anguthimri"⟩,
  ⟨"awh", none, "Awbono"⟩,
  ⟨"awi", none, "Aekyom"⟩,
  ⟨"awk", none, "Awabakal"⟩,
  ⟨"awm", none, "Arawum"⟩,
  ⟨"awn", none, "Awngi"⟩,
  ⟨"awo", none, "Awak"⟩,
  ⟨"awr", none, "Awera"⟩,
  ⟨"aws", none, "South Awyu"⟩,
  ⟨"awt", none, "Araweté"⟩,
  ⟨"awu", none, "Central Awyu"⟩,
  ⟨"awv", none, "Jair Awyu"⟩,
  ⟨"aww", none, "Awun"⟩,
  ⟨"awx", none, "Awara"⟩,
  ⟨"awy", none, "Edera Awyu"⟩,
  ⟨"axb", none, "Abipon"⟩,
  ⟨"axe", none, "Ayerrerenge"⟩,
  ⟨"axg", none, "Mato Grosso Arára"⟩,
  ⟨"axk", none, "Yaka"⟩,
  ⟨"axl", none, "Lower Southern Aranda"⟩,
  ⟨"axm", none, "Middle Armenian"⟩,
  ⟨"axx", none, "Xârâgurè"⟩,
  ⟨"aya", none, "Awar"⟩,
  ⟨"ayb", none, "Ayizo Gbe"⟩,
  ⟨"ayc", none, "Southern Aymara"⟩,
  ⟨"ayd", none, "Ayabadhu"⟩,
  ⟨"aye", none, "Ayere"⟩,
  ⟨"ayg", none, "Ginyanga"⟩,
  ⟨"ayh", none, "Hadrami Arabic"⟩,
  ⟨"ayi", none, "Leyigha"⟩,
  ⟨"ayk", none, "Akuku"⟩,
  ⟨"ayl", none, "Libyan Arabic"⟩,
  ⟨"aym", some "ay", "Aymara"⟩,
  ⟨"ayn", none, "Sanaani Arabic"⟩,
  ⟨"ayo", none, "Ayoreo"⟩,
  ⟨"ayp", none, "North Mesopotamian Arabic"⟩,
  ⟨"ayq", none, "Ayi"⟩,
  ⟨"ayr", none, "Central Aymara"⟩,
  ⟨"ays", none, "Sorsogon Ayta"⟩,
  ⟨"ayt", none, "Magbukun Ayta"⟩,
  ⟨"ayu", none, "Ayu"⟩,
  ⟨"ayz", none, "Mai Brat"⟩,
  ⟨"aza", none, "Azha"⟩,
  ⟨"azb", none, "South Azerbaijani"⟩,
  ⟨"azd", none, "Eastern Durango Nahuatl"⟩,
  ⟨"aze", some "az", "Azerbaijani"⟩,
  ⟨"azg", none, "San Pedro Amuzgos Amuzgo"⟩,
  ⟨"azj", none, "North Azerbaijani"⟩,
  ⟨"azm", none, "Ipalapa Amuzgo"⟩,
  ⟨"azn", none, "Western Durango Nahuatl"⟩,
  ⟨"azo", none, "Awing"⟩,
  ⟨"azt", none, "Faire Atta"⟩,
  ⟨"azz", none, "Highland Puebla Nahuatl"⟩]

/-- The languages whose three-letter code starts with `b`, in code order. -/
def entriesB : List Entry := [
  ⟨"baa", none, "Babatana"⟩,
  ⟨"bab", none, "Bainouk-Gunyuño"⟩,
  ⟨"bac", none, "Badui"⟩,
  ⟨"bae", none, "Baré"⟩,
  ⟨"baf", none, "Nubaca"⟩,
  ⟨"bag", none, "Tuki"⟩,
  ⟨"bah", none, "Bahamas Creole English"⟩,
  ⟨"baj", none, "Barakai"⟩,
  ⟨"bak", some "ba", "Bashkir"⟩,
  ⟨"bal", none, "Baluchi"⟩,
  ⟨"bam", some "bm", "Bambara"⟩,
  ⟨"ban", none, "Balinese"⟩,
  ⟨"bao", none, "Waimaha"⟩,
  ⟨"bap", none, "Bantawa"⟩,
  ⟨"bar", none, "Bavarian"⟩,
  ⟨"bas", none, "Basa"⟩,
  ⟨"bau", none, "Bada"⟩,
  ⟨"bav", none, "Vengo"⟩,
  ⟨"baw", none, "Bambili-Bambui"⟩,
  ⟨"bax", none, "Bamun"⟩,
  ⟨"bay", none, "Batuley"⟩,
  ⟨"bba", none, "Baatonum"⟩,
  ⟨"bbb", none, "Barai"⟩,
  ⟨"bbc", none, "Batak Toba"⟩,
  ⟨"bbd", none, "Bau"⟩,
  ⟨"bbe", none, "Bangba"⟩,
  ⟨"bbf", none, "Baibai"⟩,
  ⟨"bbg", none, "Barama"⟩,
  ⟨"bbh", none, "Bugan"⟩,
  ⟨"bbi", none, "Barombi"⟩,
  ⟨"bbj", none, "Ghomálá'"⟩,
  ⟨"bbk", none, "Babanki"⟩,
  ⟨"bbl", none, "Bats"⟩,
  ⟨"bbm", none, "Babango"⟩,
  ⟨"bbn", none, "Uneapa"⟩,
  ⟨"bbo", none, "Northern Bobo Madaré"⟩,
  ⟨"bbp", none, "West Central Banda"⟩,
  ⟨"bbq", none, "Bamali"⟩,
  ⟨"bbr", none, "Girawa"⟩,
  ⟨"bbs", none, "Bakpinka"⟩,
  ⟨"bbt", none, "Mburku"⟩,
  ⟨"bbu", none, "Kulung"⟩,
  ⟨"bbv", none, "Karnai"⟩,
  ⟨"bbw", none, "Baba"⟩,
  ⟨"bbx", none, "Bubia"⟩,
  ⟨"bby", none, "Befang"⟩,
  ⟨"bca", none, "Central Bai"⟩,
  ⟨"bcb", none, "Bainouk-Samik"⟩,
  ⟨"bcc", none, "Southern Balochi"⟩,
  ⟨"bcd", none, "North Babar"⟩,
  ⟨"bce", none, "Bamenyam"⟩,
  ⟨"bcf", none, "Bamu"⟩,
  ⟨"bcg", none, "Baga Pokur"⟩,
  ⟨"bch", none, "Bariai"⟩,
  ⟨"bci", none, "Baoulé"⟩,
  ⟨"bcj", none, "Bardi"⟩,
  ⟨"bck", none, "Bunuba"⟩,
  ⟨"bcl", none, "Central Bikol"⟩,
  ⟨"bcm", none, "Bannoni"⟩,
  ⟨"bcn", none, "Bali"⟩,
  ⟨"bco", none, "Kaluli"⟩,
  ⟨"bcp", none, "Bali"⟩,
  ⟨"bcq", none, "Bench"⟩,
  ⟨"bcr", none, "Babine"⟩,
  ⟨"bcs", none, "Kohumono"⟩,
  ⟨"bct", none, "Bendi"⟩,
  ⟨"bcu", none, "Awad Bing"⟩,
  ⟨"bcv", none, "Shoo-Minda-Nye"⟩,
  ⟨"bcw", none, "Bana"⟩,
  ⟨"bcy", none, "Bacama"⟩,
  ⟨"bcz", none, "Bainouk-Gunyaamolo"⟩,
  ⟨"bda", none, "Bayot"⟩,
  ⟨"bdb", none, "Basap"⟩,
  ⟨"bdc", none, "Emberá-Baudó"⟩,
  ⟨"bdd", none, "Bunama"⟩,
  ⟨"bde", none, "Bade"⟩,
  ⟨"bdf", none, "Biage"⟩,
  ⟨"bdg", none, "Bonggi"⟩,
  ⟨"bdh", none, "Baka"⟩,
  ⟨"bdi", none, "Burun"⟩,
  ⟨"bdj", none, "Bai"⟩,
  ⟨"bdk", none, "Budukh"⟩,
  ⟨"bdl", none, "Indonesian Bajau"⟩,
  ⟨"bdm", none, "Buduma"⟩,
  ⟨"bdn", none, "Baldemu"⟩,
  ⟨"bdo", none, "Morom"⟩,
  ⟨"bdp", none, "Bende"⟩,
  ⟨"bdq", none, "Bahnar"⟩,
  ⟨"bdr", none, "West Coast Bajau"⟩,
  ⟨"bds", none, "Burunge"⟩,
  ⟨"bdt", none, "Bokoto"⟩,
  ⟨"bdu", none, "Oroko"⟩,
  ⟨"bdv", none, "Bodo Parja"⟩,
  ⟨"bdw", none, "Baham"⟩,
  ⟨"bdx", none, "Budong-Budong"⟩,
  ⟨"bdy", none, "Bandjalang"⟩,
  ⟨"bdz", none, "Badeshi"⟩,
  ⟨"bea", none, "Beaver"⟩,
  ⟨"beb", none, "Bebele"⟩,
  ⟨"bec", none, "Iceve-Maci"⟩,
  ⟨"bed", none, "Bedoanas"⟩,
  ⟨"bee", none, "Byangsi"⟩,
  ⟨"bef", none, "Benabena"⟩,
  ⟨"beg", none, "Belait"⟩,
  ⟨"beh", none, "Biali"⟩,
  ⟨"bei", none, "Bekati'"⟩,
  ⟨"bej", none, "Beja"⟩,
  ⟨"bek", none, "Bebeli"⟩,
  ⟨"bel", some "be", "Belarusian"⟩,
  ⟨"bem", none, "Bemba"⟩,
  ⟨"ben", some "bn", "Bengali"⟩,
  ⟨"beo", none, "Beami"⟩,
  ⟨"bep", none, "Besoa"⟩,
  ⟨"beq", none, "Beembe"⟩,
  ⟨"bes", none, "Besme"⟩,
  ⟨"bet", none, "Guiberoua Béte"⟩,
  ⟨"beu", none, "Blagar"⟩,
  ⟨"bev", none, "Daloa Bété"⟩,
  ⟨"bew", none, "Betawi"⟩,
  ⟨"bex", none, "Jur Modo"⟩,
  ⟨"bey", none, "Beli"⟩,
  ⟨"bez", none, "Bena"⟩,
  ⟨"bfa", none, "Bari"⟩,
  ⟨"bfb", none, "Pauri Bareli"⟩,
  ⟨"bfc", none, "Panyi Bai"⟩,
  ⟨"bfd", none, "Bafut"⟩,
  ⟨"bfe", none, "Betaf"⟩,
  ⟨"bff", none, "Bofi"⟩,
  ⟨"bfg", none, "Busang Kayan"⟩,
  ⟨"bfh", none, "Blafe"⟩,
  ⟨"bfi", none, "British Sign Language"⟩,
  ⟨"bfj", none, "Bafanji"⟩,
  ⟨"bfk", none, "Ban Khor Sign Language"⟩,
  ⟨"bfl", none, "Banda-Ndélé"⟩,
  ⟨"bfm", none, "Mmen"⟩,
  ⟨"bfn", none, "Bunak"⟩,
  ⟨"bfo", none, "Malba Birifor"⟩,
  ⟨"bfp", none, "Beba"⟩,
  ⟨"bfq", none, "Badaga"⟩,
  ⟨"bfr", none, "Bazigar"⟩,
  ⟨"bfs", none, "Southern Bai"⟩,
  ⟨"bft", none, "Balti"⟩,
  ⟨"bfu", none, "Gahri"⟩,
  ⟨"bfw", none, "Bondo"⟩,
  ⟨"bfx", none, "Bantayanon"⟩,
  ⟨"bfy", none, "Bagheli"⟩,
  ⟨"bfz", none, "Mahasu Pahari"⟩,
  ⟨"bga", none, "Gwamhi-Wuri"⟩,
  ⟨"bgb", none, "Bobongko"⟩,
  ⟨"bgc", none, "Haryanvi"⟩,
  ⟨"bgd", none, "Rathwi Bareli"⟩,
  ⟨"bge", none, "Bauria"⟩,
  ⟨"bgf", none, "Bangandu"⟩,
  ⟨"bgg", none, "Bugun"⟩,
  ⟨"bgi", none, "Giangan"⟩,
  ⟨"bgj", none, "Bangolan"⟩,
  ⟨"bgk", none, "Bit"⟩,
  ⟨"bgl", none, "Bo"⟩,
  ⟨"bgn", none, "Western Balochi"⟩,
  ⟨"bgo", none, "Baga Koga"⟩,
  ⟨"bgp", none, "Eastern Balochi"⟩,
  ⟨"bgq", none, "Bagri"⟩,
  ⟨"bgr", none, "Bawm Chin"⟩,
  ⟨"bgs", none, "Tagabawa"⟩,
  ⟨"bgt", none, "Bughotu"⟩,
  ⟨"bgu", none, "Mbongno"⟩,
  ⟨"bgv", none, "Warkay-Bipim"⟩,
  ⟨"bgw", none, "Bhatri"⟩,
  ⟨"bgx", none, "Balkan Gagauz Turkish"⟩,
  ⟨"bgy", none, "Benggoi"⟩,
  ⟨"bgz", none, "Banggai"⟩,
  ⟨"bha", none, "Bharia"⟩,
  ⟨"bhb", none, "Bhili"⟩,
  ⟨"bhc", none, "Biga"⟩,
  ⟨"bhd", none, "Bhadrawahi"⟩,
  ⟨"bhe", none, "Bhaya"⟩,
  ⟨"bhf", none, "Odiai"⟩,
  ⟨"bhg", none, "Binandere"⟩,
  ⟨"bhh", none, "Bukharic"⟩,
  ⟨"bhi", none, "Bhilali"⟩,
  ⟨"bhj", none, "Bahing"⟩,
  ⟨"bhl", none, "Bimin"⟩,
  ⟨"bhm", none, "Bathari"⟩,
  ⟨"bhn", none, "Bohtan Neo-Aramaic"⟩,
  ⟨"bho", none, "Bhojpuri"⟩,
  ⟨"bhp", none, "Bima"⟩,
  ⟨"bhq", none, "Tukang Besi South"⟩,
  ⟨"bhr", none, "Bara Malagasy"⟩,
  ⟨"bhs", none, "Buwal"⟩,
  ⟨"bht", none, "Bhattiyali"⟩,
  ⟨"bhu", none, "Bhunjia"⟩,
  ⟨"bhv", none, "Bahau"⟩,
  ⟨"bhw", none, "Biak"⟩,
  ⟨"bhx", none, "Bhalay"⟩,
  ⟨"bhy", none, "Bhele"⟩,
  ⟨"bhz", none, "Bada"⟩,
  ⟨"bia", none, "Badimaya"⟩,
  ⟨"bib", none, "Bissa"⟩,
  ⟨"bic", none, "Bikaru"⟩,
  ⟨"bid", none, "Bidiyo"⟩,
  ⟨"bie", none, "Bepour"⟩,
  ⟨"bif", none, "Biafada"⟩,
  ⟨"big", none, "Biangai"⟩,
  ⟨"bij", none, "Vaghat-Ya-Bijim-Legeri"⟩,
  ⟨"bik", none, "Bikol"⟩,
  ⟨"bil", none, "Bile"⟩,
  ⟨"bim", none, "Bimoba"⟩,
  ⟨"bin", none, "Bini"⟩,
  ⟨"bio", none, "Nai"⟩,
  ⟨"bip", none, "Bila"⟩,
  ⟨"biq", none, "Bipi"⟩,
  ⟨"bir", none, "Bisorio"⟩,
  ⟨"bis", some "bi", "Bislama"⟩,
  ⟨"bit", none, "Berinomo"⟩,
  ⟨"biu", none, "Biete"⟩,
  ⟨"biv", none, "Southern Birifor"⟩,
  ⟨"biw", none, "Kol"⟩,
  ⟨"bix", none, "Bijori"⟩,
  ⟨"biy", none, "Birhor"⟩,
  ⟨"biz", none, "Baloi"⟩,
  ⟨"bja", none, "Budza"⟩,
  ⟨"bjb", none, "Banggarla"⟩,
  ⟨"bjc", none, "Bariji"⟩,
  ⟨"bje", none, "Biao-Jiao Mien"⟩,
  ⟨"bjf", none, "Barzani Jewish Neo-Aramaic"⟩,
  ⟨"bjg", none, "Bidyogo"⟩,
  ⟨"bjh", none, "Bahinemo"⟩,
  ⟨"bji", none, "Burji"⟩,
  ⟨"bjj", none, "Kanauji"⟩,
  ⟨"bjk", none, "Barok"⟩,
  ⟨"bjl", none, "Bulu"⟩,
  ⟨"bjm", none, "Bajelani"⟩,
  ⟨"bjn", none, "Banjar"⟩,
  ⟨"bjo", none, "Mid-Southern Banda"⟩,
  ⟨"bjp", none, "Fanamaket"⟩,
  ⟨"bjr", none, "Binumarien"⟩,
  ⟨"bjs", none, "Bajan"⟩,
  ⟨"bjt", none, "Balanta-Ganja"⟩,
  ⟨"bju", none, "Busuu"⟩,
  ⟨"bjv", none, "Bedjond"⟩,
  ⟨"bjw", none, "Bakwé"⟩,
  ⟨"bjx", none, "Banao Itneg"⟩,
  ⟨"bjy", none, "Bayali"⟩,
  ⟨"bjz", none, "Baruga"⟩,
  ⟨"bka", none, "Kyak"⟩,
  ⟨"bkc", none, "Baka"⟩,
  ⟨"bkd", none, "Binukid"⟩,
  ⟨"bkf", none, "Beeke"⟩,
  ⟨"bkg", none, "Buraka"⟩,
  ⟨"bkh", none, "Bakoko"⟩,
  ⟨"bki", none, "Baki"⟩,
  ⟨"bkj", none, "Pande"⟩,
  ⟨"bkk", none, "Brokskat"⟩,
  ⟨"bkl", none, "Berik"⟩,
  ⟨"bkm", none, "Kom"⟩,
  ⟨"bkn", none, "Bukitan"⟩,
  ⟨"bko", none, "Kwa'"⟩,
  ⟨"bkp", none, "Boko"⟩,
  ⟨"bkq", none, "Bakairí"⟩,
  ⟨"bkr", none, "Bakumpai"⟩,
  ⟨"bks", none, "Northern Sorsoganon"⟩,
  ⟨"bkt", none, "Boloki"⟩,
  ⟨"bku", none, "Buhid"⟩,
  ⟨"bkv", none, "Bekwarra"⟩,
  ⟨"bkw", none, "Bekwel"⟩,
  ⟨"bkx", none, "Baikeno"⟩,
  ⟨"bky", none, "Bokyi"⟩,
  ⟨"bkz", none, "Bungku"⟩,
  ⟨"bla", none, "Siksika"⟩,
  ⟨"blb", none, "Bilua"⟩,
  ⟨"blc", none, "Bella Coola"⟩,
  ⟨"bld", none, "Bolango"⟩,
  ⟨"ble", none, "Balanta-Kentohe"⟩,
  ⟨"blf", none, "Buol"⟩,
  ⟨"blh", none, "Kuwaa"⟩,
  ⟨"bli", none, "Bolia"⟩,
  ⟨"blj", none, "Bolongan"⟩,
  ⟨"blk", none, "Pa'o Karen"⟩,
  ⟨"bll", none, "Biloxi"⟩,
  ⟨"blm", none, "Beli"⟩,
  ⟨"bln", none, "Southern Catanduanes Bikol"⟩,
  ⟨"blo", none, "Anii"⟩,
  ⟨"blp", none, "Blablanga"⟩,
  ⟨"blq", none, "Baluan-Pam"⟩,
  ⟨"blr", none, "Blang"⟩,
  ⟨"bls", none, "Balaesang"⟩,
  ⟨"blt", none, "Tai Dam"⟩,
  ⟨"blv", none, "Kibala"⟩,
  ⟨"blw", none, "Balangao"⟩,
  ⟨"blx", none, "Mag-Indi Ayta"⟩,
  ⟨"bly", none, "Notre"⟩,
  ⟨"blz", none, "Balantak"⟩,
  ⟨"bma", none, "Lame"⟩,
  ⟨"bmb", none, "Bembe"⟩,
  ⟨"bmc", none, "Biem"⟩,
  ⟨"bmd", none, "Baga Manduri"⟩,
  ⟨"bme", none, "Limassa"⟩,
  ⟨"bmf", none, "Bom-Kim"⟩,
  ⟨"bmg", none, "Bamwe"⟩,
  ⟨"bmh", none, "Kein"⟩,
  ⟨"bmi", none, "Bagirmi"⟩,
  ⟨"bmj", none, "Bote-Majhi"⟩,
  ⟨"bmk", none, "Ghayavi"⟩,
  ⟨"bml", none, "Bomboli"⟩,
  ⟨"bmm", none, "Northern Betsimisaraka Malagasy"⟩,
  ⟨"bmn", none, "Bina"⟩,
  ⟨"bmo", none, "Bambalang"⟩,
  ⟨"bmp", none, "Bulgebi"⟩,
  ⟨"bmq", none, "Bomu"⟩,
  ⟨"bmr", none, "Muinane"⟩,
  ⟨"bms", none, "Bilma Kanuri"⟩,
  ⟨"bmt", none, "Biao Mon"⟩,
  ⟨"bmu", none, "Somba-Siawari"⟩,
  ⟨"bmv", none, "Bum"⟩,
  ⟨"bmw", none, "Bomwali"⟩,
  ⟨"bmx", none, "Baimak"⟩,
  ⟨"bmz", none, "Baramu"⟩,
  ⟨"bna", none, "Bonerate"⟩,
  ⟨"bnb", none, "Bookan"⟩,
  ⟨"bnc", none, "Bontok"⟩,
  ⟨"bnd", none, "Banda"⟩,
  ⟨"bne", none, "Bintauna"⟩,
  ⟨"bnf", none, "Masiwang"⟩,
  ⟨"bng", none, "Benga"⟩,
  ⟨"bni", none, "Bangi"⟩,
  ⟨"bnj", none, "Eastern Tawbuid"⟩,
  ⟨"bnk", none, "Bierebo"⟩,
  ⟨"bnl", none, "Boon"⟩,
  ⟨"bnm", none, "Batanga"⟩,
  ⟨"bnn", none, "Bunun"⟩,
  ⟨"bno", none, "Bantoanon"⟩,
  ⟨"bnp", none, "Bola"⟩,
  ⟨"bnq", none, "Bantik"⟩,
  ⟨"bnr", none, "Butmas-Tur"⟩,
  ⟨"bns", none, "Bundeli"⟩,
  ⟨"bnu", none, "Bentong"⟩,
  ⟨"bnv", none, "Bonerif"⟩,
  ⟨"bnw", none, "Bisis"⟩,
  ⟨"bnx", none, "Bangubangu"⟩,
  ⟨"bny", none, "Bintulu"⟩,
  ⟨"bnz", none, "Beezen"⟩,
  ⟨"boa", none, "Bora"⟩,
  ⟨"bob", none, "Aweer"⟩,
  ⟨"bod", some "bo", "Tibetan"⟩,
  ⟨"boe", none, "Mundabli"⟩,
  ⟨"bof", none, "Bolon"⟩,
  ⟨"bog", none, "Bamako Sign Language"⟩,
  ⟨"boh", none, "North Boma"⟩,
  ⟨"boi", none, "Barbareño"⟩,
  ⟨"boj", none, "Anjam"⟩,
  ⟨"bok", none, "Bonjo"⟩,
  ⟨"bol", none, "Bole"⟩,
  ⟨"bom", none, "Berom"⟩,
  ⟨"bon", none, "Bine"⟩,
  ⟨"boo", none, "Tiemacèwè Bozo"⟩,
  ⟨"bop", none, "Bonkiman"⟩,
  ⟨"boq", none, "Bogaya"⟩,
  ⟨"bor", none, "Borôro"⟩,
  ⟨"bos", some "bs", "Bosnian"⟩,
  ⟨"bot", none, "Bongo"⟩,
  ⟨"bou", none, "Bondei"⟩,
  ⟨"bov", none, "Tuwuli"⟩,
  ⟨"bow", none, "Rema"⟩,
  ⟨"box", none, "Buamu"⟩,
  ⟨"boy", none, "Bodo"⟩,
  ⟨"boz", none, "Tiéyaxo Bozo"⟩,
  ⟨"bpa", none, "Daakaka"⟩,
  ⟨"bpd", none, "Banda-Banda"⟩,
  ⟨"bpg", none, "Bonggo"⟩,
  ⟨"bph", none, "Botlikh"⟩,
  ⟨"bpi", none, "Bagupi"⟩,
  ⟨"bpj", none, "Binji"⟩,
  ⟨"bpk", none, "Orowe"⟩,
  ⟨"bpl", none, "Broome Pearling Lugger Pidgin"⟩,
  ⟨"bpm", none, "Biyom"⟩,
  ⟨"bpn", none, "Dzao Min"⟩,
  ⟨"bpo", none, "Anasi"⟩,
  ⟨"bpp", none, "Kaure"⟩,
  ⟨"bpq", none, "Banda Malay"⟩,
  ⟨"bpr", none, "Koronadal Blaan"⟩,
  ⟨"bps", none, "Sarangani Blaan"⟩,
  ⟨"bpt", none, "Barrow Point"⟩,
  ⟨"bpu", none, "Bongu"⟩,
  ⟨"bpv", none, "Bian Marind"⟩,
  ⟨"bpw", none, "Bo"⟩,
  ⟨"bpx", none, "Palya Bareli"⟩,
  ⟨"bpy", none, "Bishnupriya"⟩,
  ⟨"bpz", none, "Bilba"⟩,
  ⟨"bqa", none, "Tchumbuli"⟩,
  ⟨"bqb", none, "Bagusa"⟩,
  ⟨"bqc", none, "Boko"⟩,
  ⟨"bqd", none, "Bung"⟩,
  ⟨"bqf", none, "Baga Kaloum"⟩,
  ⟨"bqg", none, "Bago-Kusuntu"⟩,
  ⟨"bqh", none, "Baima"⟩,
  ⟨"bqi", none, "Bakhtiari"⟩,
  ⟨"bqj", none, "Bandial"⟩,
  ⟨"bqk", none, "Banda-Mbrès"⟩,
  ⟨"bql", none, "Bilakura"⟩,
  ⟨"bqm", none, "Wumboko"⟩,
  ⟨"bqn", none, "Bulgarian Sign Language"⟩,
  ⟨"bqo", none, "Balo"⟩,
  ⟨"bqp", none, "Busa"⟩,
  ⟨"bqq", none, "Biritai"⟩,
  ⟨"bqr", none, "Burusu"⟩,
  ⟨"bqs", none, "Bosngun"⟩,
  ⟨"bqt", none, "Bamukumbit"⟩,
  ⟨"bqu", none, "Boguru"⟩,
  ⟨"bqv", none, "Koro Wachi"⟩,
  ⟨"bqw", none, "Buru"⟩,
  ⟨"bqx", none, "Baangi"⟩,
  ⟨"bqy", none, "Bengkala Sign Language"⟩,
  ⟨"bqz", none, "Bakaka"⟩,
  ⟨"bra", none, "Braj"⟩,
  ⟨"brb", none, "Brao"⟩,
  ⟨"brc", none, "Berbice Creole Dutch"⟩,
  ⟨"brd", none, "Baraamu"⟩,
  ⟨"bre", some "br", "Breton"⟩,
  ⟨"brf", none, "Bira"⟩,
  ⟨"brg", none, "Baure"⟩,
  ⟨"brh", none, "Brahui"⟩,
  ⟨"bri", none, "Mokpwe"⟩,
  ⟨"brj", none, "Bieria"⟩,
  ⟨"brk", none, "Birked"⟩,
  ⟨"brl", none, "Birwa"⟩,
  ⟨"brm", none, "Barambu"⟩,
  ⟨"brn", none, "Boruca"⟩,
  ⟨"bro", none, "Brokkat"⟩,
  ⟨"brp", none, "Barapasi"⟩,
  ⟨"brq", none, "Breri"⟩,
  ⟨"brr", none, "Birao"⟩,
  ⟨"brs", none, "Baras"⟩,
  ⟨"brt", none, "Bitare"⟩,
  ⟨"bru", none, "Eastern Bru"⟩,
  ⟨"brv", none, "Western Bru"⟩,
  ⟨"brw", none, "Bellari"⟩,
  ⟨"brx", none, "Bodo"⟩,
  ⟨"bry", none, "Burui"⟩,
  ⟨"brz", none, "Bilbil"⟩,
  ⟨"bsa", none, "Abinomn"⟩,
  ⟨"bsb", none, "Brunei Bisaya"⟩,
  ⟨"bsc", none, "Bassari"⟩,
  ⟨"bse", none, "Wushi"⟩,
  ⟨"bsf", none, "Bauchi"⟩,
  ⟨"bsg", none, "Bashkardi"⟩,
  ⟨"bsh", none, "Kati"⟩,
  ⟨"bsi", none, "Bassossi"⟩,
  ⟨"bsj", none, "Bangwinji"⟩,
  ⟨"bsk", none, "Burushaski"⟩,
  ⟨"bsl", none, "Basa-Gumna"⟩,
  ⟨"bsm", none, "Busami"⟩,
  ⟨"bsn", none, "Barasana-Eduria"⟩,
  ⟨"bso", none, "Buso"⟩,
  ⟨"bsp", none, "Baga Sitemu"⟩,
  ⟨"bsq", none, "Bassa"⟩,
  ⟨"bsr", none, "Bassa-Kontagora"⟩,
  ⟨"bss", none, "Akoose"⟩,
  ⟨"bst", none, "Basketo"⟩,
  ⟨"bsu", none, "Bahonsuai"⟩,
  ⟨"bsv", none, "Baga Sobané"⟩,
  ⟨"bsw", none, "Baiso"⟩,
  ⟨"bsx", none, "Yangkam"⟩,
  ⟨"bsy", none, "Sabah Bisaya"⟩,
  ⟨"bta", none, "Bata"⟩,
  ⟨"btc", none, "Bati"⟩,
  ⟨"btd", none, "Batak Dairi"⟩,
  ⟨"bte", none, "Gamo-Ningi"⟩,
  ⟨"btf", none, "Birgit"⟩,
  ⟨"btg", none, "Gagnoa Bété"⟩,
  ⟨"bth", none, "Biatah Bidayuh"⟩,
  ⟨"bti", none, "Burate"⟩,
  ⟨"btj", none, "Bacanese Malay"⟩,
  ⟨"btm", none, "Batak Mandailing"⟩,
  ⟨"btn", none, "Ratagnon"⟩,
  ⟨"bto", none, "Rinconada Bikol"⟩,
  ⟨"btp", none, "Budibud"⟩,
  ⟨"btq", none, "Batek"⟩,
  ⟨"btr", none, "Baetora"⟩,
  ⟨"bts", none, "Batak Simalungun"⟩,
  ⟨"btt", none, "Bete-Bendi"⟩,
  ⟨"btu", none, "Batu"⟩,
  ⟨"btv", none, "Bateri"⟩,
  ⟨"btw", none, "Butuanon"⟩,
  ⟨"btx", none, "Batak Karo"⟩,
  ⟨"bty", none, "Bobot"⟩,
  ⟨"btz", none, "Batak Alas-Kluet"⟩,
  ⟨"bua", none, "Buriat"⟩,
  ⟨"bub", none, "Bua"⟩,
  ⟨"buc", none, "Bushi"⟩,
  ⟨"bud", none, "Ntcham"⟩,
  ⟨"bue", none, "Beothuk"⟩,
  ⟨"buf", none, "Bushoong"⟩,
  ⟨"bug", none, "Buginese"⟩,
  ⟨"buh", none, "Younuo Bunu"⟩,
  ⟨"bui", none, "Bongili"⟩,
  ⟨"buj", none, "Basa-Gurmana"⟩,
  ⟨"buk", none, "Bugawac"⟩,
  ⟨"bul", some "bg", "Bulgarian"⟩,
  ⟨"bum", none, "Bulu"⟩,
  ⟨"bun", none, "Sherbro"⟩,
  ⟨"buo", none, "Terei"⟩,
  ⟨"bup", none, "Busoa"⟩,
  ⟨"buq", none, "Brem"⟩,
  ⟨"bus", none, "Bokobaru"⟩,
  ⟨"but", none, "Bungain"⟩,
  ⟨"buu", none, "Budu"⟩,
  ⟨"buv", none, "Bun"⟩,
  ⟨"buw", none, "Bubi"⟩,
  ⟨"bux", none, "Boghom"⟩,
  ⟨"buy", none, "Bullom So"⟩,
  ⟨"buz", none, "Bukwen"⟩,
  ⟨"bva", none, "Barein"⟩,
  ⟨"bvb", none, "Bube"⟩,
  ⟨"bvc", none, "Baelelea"⟩,
  ⟨"bvd", none, "Baeggu"⟩,
  ⟨"bve", none, "Berau Malay"⟩,
  ⟨"bvf", none, "Boor"⟩,
  ⟨"bvg", none, "Bonkeng"⟩,
  ⟨"bvh", none, "Bure"⟩,
  ⟨"bvi", none, "Belanda Viri"⟩,
  ⟨"bvj", none, "Baan"⟩,
  ⟨"bvk", none, "Bukat"⟩,
  ⟨"bvl", none, "Bolivian Sign Language"⟩,
  ⟨"bvm", none, "Bamunka"⟩,
  ⟨"bvn", none, "Buna"⟩,
  ⟨"bvo", none, "Bolgo"⟩,
  ⟨"bvp", none, "Bumang"⟩,
  ⟨"bvq", none, "Birri"⟩,
  ⟨"bvr", none, "Burarra"⟩,
  ⟨"bvt", none, "Bati"⟩,
  ⟨"bvu", none, "Bukit Malay"⟩,
  ⟨"bvv", none, "Baniva"⟩,
  ⟨"bvw", none, "Boga"⟩,
  ⟨"bvx", none, "Dibole"⟩,
  ⟨"bvy", none, "Baybayanon"⟩,
  ⟨"bvz", none, "Bauzi"⟩,
  ⟨"bwa", none, "Bwatoo"⟩,
  ⟨"bwb", none, "Namosi-Naitasiri-Serua"⟩,
  ⟨"bwc", none, "Bwile"⟩,
  ⟨"bwd", none, "Bwaidoka"⟩,
  ⟨"bwe", none, "Bwe Karen"⟩,
  ⟨"bwf", none, "Boselewa"⟩,
  ⟨"bwg", none, "Barwe"⟩,
  ⟨"bwh", none, "Bishuo"⟩,
  ⟨"bwi", none, "Baniwa"⟩,
  ⟨"bwj", none, "Láá Láá Bwamu"⟩,
  ⟨"bwk", none, "Bauwaki"⟩,
  ⟨"bwl", none, "Bwela"⟩,
  ⟨"bwm", none, "Biwat"⟩,
  ⟨"bwn", none, "Wunai Bunu"⟩,
  ⟨"bwo", none, "Boro"⟩,
  ⟨"bwp", none, "Mandobo Bawah"⟩,
  ⟨"bwq", none, "Southern Bobo Madaré"⟩,
  ⟨"bwr", none, "Bura-Pabir"⟩,
  ⟨"bws", none, "Bomboma"⟩,
  ⟨"bwt", none, "Bafaw-Balong"⟩,
  ⟨"bwu", none, "Buli"⟩,
  ⟨"bww", none, "Bwa"⟩,
  ⟨"bwx", none, "Bu-Nao Bunu"⟩,
  ⟨"bwy", none, "Cwi Bwamu"⟩,
  ⟨"bwz", none, "Bwisi"⟩,
  ⟨"bxa", none, "Tairaha"⟩,
  ⟨"bxb", none, "Belanda Bor"⟩,
  ⟨"bxc", none, "Molengue"⟩,
  ⟨"bxd", none, "Pela"⟩,
  ⟨"bxe", none, "Birale"⟩,
  ⟨"bxf", none, "Bilur"⟩,
  ⟨"bxg", none, "Bangala"⟩,
  ⟨"bxh", none, "Buhutu"⟩,
  ⟨"bxi", none, "Pirlatapa"⟩,
  ⟨"bxj", none, "Bayungu"⟩,
  ⟨"bxk", none, "Bukusu"⟩,
  ⟨"bxl", none, "Jalkunan"⟩,
  ⟨"bxm", none, "Mongolia Buriat"⟩,
  ⟨"bxn", none, "Burduna"⟩,
  ⟨"bxo", none, "Barikanchi"⟩,
  ⟨"bxp", none, "Bebil"⟩,
  ⟨"bxq", none, "Beele"⟩,
  ⟨"bxr", none, "Russia Buriat"⟩,
  ⟨"bxs", none, "Busam"⟩,
  ⟨"bxu", none, "China Buriat"⟩,
  ⟨"bxv", none, "Berakou"⟩,
  ⟨"bxw", none, "Bankagooma"⟩,
  ⟨"bxz", none, "Binahari"⟩,
  ⟨"bya", none, "Batak"⟩,
  ⟨"byb", none, "Bikya"⟩,
  ⟨"byc", none, "Ubaghara"⟩,
  ⟨"byd", none, "Benyadu'"⟩,
  ⟨"bye", none, "Pouye"⟩,
  ⟨"byf", none, "Bete"⟩,
  ⟨"byg", none, "Baygo"⟩,
  ⟨"byh", none, "Bhujel"⟩,
  ⟨"byi", none, "Buyu"⟩,
  ⟨"byj", none, "Bina"⟩,
  ⟨"byk", none, "Biao"⟩,
  ⟨"byl", none, "Bayono"⟩,
  ⟨"bym", none, "Bidjara"⟩,
  ⟨"byn", none, "Bilin"⟩,
  ⟨"byo", none, "Biyo"⟩,
  ⟨"byp", none, "Bumaji"⟩,
  ⟨"byq", none, "Basay"⟩,
  ⟨"byr", none, "Baruya"⟩,
  ⟨"bys", none, "Burak"⟩,
  ⟨"byt", none, "Berti"⟩,
  ⟨"byv", none, "Medumba"⟩,
  ⟨"byw", none, "Belhariya"⟩,
  ⟨"byx", none, "Qaqet"⟩,
  ⟨"byz", none, "Banaro"⟩,
  ⟨"bza", none, "Bandi"⟩,
  ⟨"bzb", none, "Andio"⟩,
  ⟨"bzc", none, "Southern Betsimisaraka Malagasy"⟩,
  ⟨"bzd", none, "Bribri"⟩,
  ⟨"bze", none, "Jenaama Bozo"⟩,
  ⟨"bzf", none, "Boikin"⟩,
  ⟨"bzg", none, "Babuza"⟩,
  ⟨"bzh", none, "Mapos Buang"⟩,
  ⟨"bzi", none, "Bisu"⟩,
  ⟨"bzj", none, "Belize Kriol English"⟩,
  ⟨"bzk", none, "Nicaragua Creole English"⟩,
  ⟨"bzl", none, "Boano"⟩,
  ⟨"bzm", none, "Bolondo"⟩,
  ⟨"bzn", none, "Boano"⟩,
  ⟨"bzo", none, "Bozaba"⟩,
  ⟨"bzp", none, "Kemberano"⟩,
  ⟨"bzq", none, "Buli"⟩,
  ⟨"bzr", none, "Biri"⟩,
  ⟨"bzs", none, "Brazilian Sign Language"⟩,
  ⟨"bzt", none, "Brithenig"⟩,
  ⟨"bzu", none, "Burmeso"⟩,
  ⟨"bzv", none, "Naami"⟩,
  ⟨"bzw", none, "Basa"⟩,
  ⟨"bzx", none, "Kɛlɛngaxo Bozo"⟩,
  ⟨"bzy", none, "Obanliku"⟩,
  ⟨"bzz", none, "Evant"⟩]

/-- The languages whose three-letter code starts with `c`, in code order. -/
def entriesC : List Entry := [
  ⟨"caa", none, "Chortí"⟩,
  ⟨"cab", none, "Garifuna"⟩,
  ⟨"cac", none, "Chuj"⟩,
  ⟨"cad", none, "Caddo"⟩,
  ⟨"cae", none, "Lehar"⟩,
  ⟨"caf", none, "Southern Carrier"⟩,
  ⟨"cag", none, "Nivaclé"⟩,
  ⟨"cah", none, "Cahuarano"⟩,
  ⟨"caj", none, "Chané"⟩,
  ⟨"cak", none, "Kaqchikel"⟩,
  ⟨"cal", none, "Carolinian"⟩,
  ⟨"cam", none, "Cemuhî"⟩,
  ⟨"can", none, "Chambri"⟩,
  ⟨"cao", none, "Chácobo"⟩,
  ⟨"cap", none, "Chipaya"⟩,
  ⟨"caq", none, "Car Nicobarese"⟩,
  ⟨"car", none, "Galibi Carib"⟩,
  ⟨"cas", none, "Tsimané"⟩,
  ⟨"cat", some "ca", "Catalan"⟩,
  ⟨"cav", none, "Cavineña"⟩,
  ⟨"caw", none, "Callawalla"⟩,
  ⟨"cax", none, "Chiquitano"⟩,
  ⟨"cay", none, "Cayuga"⟩,
  ⟨"caz", none, "Canichana"⟩,
  ⟨"cbb", none, "Cabiyarí"⟩,
  ⟨"cbc", none, "Carapana"⟩,
  ⟨"cbd", none, "Carijona"⟩,
  ⟨"cbg", none, "Chimila"⟩,
  ⟨"cbi", none, "Chachi"⟩,
  ⟨"cbj", none, "Ede Cabe"⟩,
  ⟨"cbk", none, "Chavacano"⟩,
  ⟨"cbl", none, "Bualkhaw Chin"⟩,
  ⟨"cbn", none, "Nyahkur"⟩,
  ⟨"cbo", none, "Izora"⟩,
  ⟨"cbq", none, "Tsucuba"⟩,
  ⟨"cbr", none, "Cashibo-Cacataibo"⟩,
  ⟨"cbs", none, "Cashinahua"⟩,
  ⟨"cbt", none, "Chayahuita"⟩,
  ⟨"cbu", none, "Candoshi-Shapra"⟩,
  ⟨"cbv", none, "Cacua"⟩,
  ⟨"cbw", none, "Kinabalian"⟩,
  ⟨"cby", none, "Carabayo"⟩,
  ⟨"ccc", none, "Chamicuro"⟩,
  ⟨"ccd", none, "Cafundo Creole"⟩,
  ⟨"cce", none, "Chopi"⟩,
  ⟨"ccg", none, "Samba Daka"⟩,
  ⟨"cch", none, "Atsam"⟩,
  ⟨"ccj", none, "Kasanga"⟩,
  ⟨"ccl", none, "Cutchi-Swahili"⟩,
  ⟨"ccm", none, "Malaccan Creole Malay"⟩,
  ⟨"cco", none, "Comaltepec Chinantec"⟩,
  ⟨"ccp", none, "Chakma"⟩,
  ⟨"ccr", none, "Cacaopera"⟩,
  ⟨"cda", none, "Choni"⟩,
  ⟨"cde", none, "Chenchu"⟩,
  ⟨"cdf", none, "Chiru"⟩,
  ⟨"cdh", none, "Chambeali"⟩,
  ⟨"cdi", none, "Chodri"⟩,
  ⟨"cdj", none, "Churahi"⟩,
  ⟨"cdm", none, "Chepang"⟩,
  ⟨"cdn", none, "Chaudangsi"⟩,
  ⟨"cdo", none, "Min Dong Chinese"⟩,
  ⟨"cdr", none, "Cinda-Regi-Tiyal"⟩,
  ⟨"cds", none, "Chadian Sign Language"⟩,
  ⟨"cdy", none, "Chadong"⟩,
  ⟨"cdz", none, "Koda"⟩,
  ⟨"cea", none, "Lower Chehalis"⟩,
  ⟨"ceb", none, "Cebuano"⟩,
  ⟨"ceg", none, "Chamacoco"⟩,
  ⟨"cek", none, "Eastern Khumi Chin"⟩,
  ⟨"cen", none, "Cen"⟩,
  ⟨"ces", some "cs", "Czech"⟩,
  ⟨"cet", none, "Centúúm"⟩,
  ⟨"cey", none, "Ekai Chin"⟩,
  ⟨"cfa", none, "Dijim-Bwilim"⟩,
  ⟨"cfd", none, "Cara"⟩,
  ⟨"cfg", none, "Como Karim"⟩,
  ⟨"cfm", none, "Falam Chin"⟩,
  ⟨"cga", none, "Changriwa"⟩,
  ⟨"cgc", none, "Kagayanen"⟩,
  ⟨"cgg", none, "Chiga"⟩,
  ⟨"cgk", none, "Chocangacakha"⟩,
  ⟨"cha", some "ch", "Chamorro"⟩,
  ⟨"chb", none, "Chibcha"⟩,
  ⟨"chc", none, "Catawba"⟩,
  ⟨"chd", none, "Highland Oaxaca Chontal"⟩,
  ⟨"che", some "ce", "Chechen"⟩,
  ⟨"chf", none, "Tabasco Chontal"⟩,
  ⟨"chg", none, "Chagatai"⟩,
  ⟨"chh", none, "Chinook"⟩,
  ⟨"chj", none, "Ojitlán Chinantec"⟩,
  ⟨"chk", none, "Chuukese"⟩,
  ⟨"chl", none, "Cahuilla"⟩,
  ⟨"chm", none, "Mari"⟩,
  ⟨"chn", none, "Chinook jargon"⟩,
  ⟨"cho", none, "Choctaw"⟩,
  ⟨"chp", none, "Chipewyan"⟩,
  ⟨"chq", none, "Quiotepec Chinantec"⟩,
  ⟨"chr", none, "Cherokee"⟩,
  ⟨"cht", none, "Cholón"⟩,
  ⟨"chu", some "cu", "Church Slavic"⟩,
  ⟨"chv", some "cv", "Chuvash"⟩,
  ⟨"chw", none, "Chuwabu"⟩,
  ⟨"chx", none, "Chantyal"⟩,
  ⟨"chy", none, "Cheyenne"⟩,
  ⟨"chz", none, "Ozumacín Chinantec"⟩,
  ⟨"cia", none, "Cia-Cia"⟩,
  ⟨"cib", none, "Ci Gbe"⟩,
  ⟨"cic", none, "Chickasaw"⟩,
  ⟨"cid", none, "Chimariko"⟩,
  ⟨"cie", none, "Cineni"⟩,
  ⟨"cih", none, "Chinali"⟩,
  ⟨"cik", none, "Chitkuli Kinnauri"⟩,
  ⟨"cim", none, "Cimbrian"⟩,
  ⟨"cin", none, "Cinta Larga"⟩,
  ⟨"cip", none, "Chiapanec"⟩,
  ⟨"cir", none, "Tiri"⟩,
  ⟨"ciw", none, "Chippewa"⟩,
  ⟨"ciy", none, "Chaima"⟩,
  ⟨"cja", none, "Western Cham"⟩,
  ⟨"cje", none, "Chru"⟩,
  ⟨"cjh", none, "Upper Chehalis"⟩,
  ⟨"cji", none, "Chamalal"⟩,
  ⟨"cjk", none, "Chokwe"⟩,
  ⟨"cjm", none, "Eastern Cham"⟩,
  ⟨"cjn", none, "Chenapian"⟩,
  ⟨"cjo", none, "Ashéninka Pajonal"⟩,
  ⟨"cjp", none, "Cabécar"⟩,
  ⟨"cjs", none, "Shor"⟩,
  ⟨"cjv", none, "Chuave"⟩,
  ⟨"cjy", none, "Jinyu Chinese"⟩,
  ⟨"ckb", none, "Central Kurdish"⟩,
  ⟨"ckh", none, "Chak"⟩,
  ⟨"ckl", none, "Cibak"⟩,
  ⟨"ckm", none, "Chakavian"⟩,
  ⟨"ckn", none, "Kaang Chin"⟩,
  ⟨"cko", none, "Anufo"⟩,
  ⟨"ckq", none, "Kajakse"⟩,
  ⟨"ckr", none, "Kairak"⟩,
  ⟨"cks", none, "Tayo"⟩,
  ⟨"ckt", none, "Chukot"⟩,
  ⟨"cku", none, "Koasati"⟩,
  ⟨"ckv", none, "Kavalan"⟩,
  ⟨"ckx", none, "Caka"⟩,
  ⟨"cky", none, "Cakfem-Mushere"⟩,
  ⟨"ckz", none, "Cakchiquel-Quiché Mixed Language"⟩,
  ⟨"cla", none, "Ron"⟩,
  ⟨"clc", none, "Chilcotin"⟩,
  ⟨"cld", none, "Chaldean Neo-Aramaic"⟩,
  ⟨"cle", none, "Lealao Chinantec"⟩,
  ⟨"clh", none, "Chilisso"⟩,
  ⟨"cli", none, "Chakali"⟩,
  ⟨"clj", none, "Laitu Chin"⟩,
  ⟨"clk", none, "Idu-Mishmi"⟩,
  ⟨"cll", none, "Chala"⟩,
  ⟨"clm", none, "Clallam"⟩,
  ⟨"clo", none, "Lowland Oaxaca Chontal"⟩,
  ⟨"clt", none, "Lautu Chin"⟩,
  ⟨"clu", none, "Caluyanun"⟩,
  ⟨"clw", none, "Chulym"⟩,
  ⟨"cly", none, "Eastern Highland Chatino"⟩,
  ⟨"cma", none, "Maa"⟩,
  ⟨"cme", none, "Cerma"⟩,
  ⟨"cmg", none, "Classical Mongolian"⟩,
  ⟨"cmi", none, "Emberá-Chamí"⟩,
  ⟨"cml", none, "Campalagian"⟩,
  ⟨"cmm", none, "Michigamea"⟩,
  ⟨"cmn", none, "Mandarin Chinese"⟩,
  ⟨"cmo", none, "Central Mnong"⟩,
  ⟨"cmr", none, "Mro-Khimi Chin"⟩,
  ⟨"cms", none, "Messapic"⟩,
  ⟨"cmt", none, "Camtho"⟩,
  ⟨"cna", none, "Changthang"⟩,
  ⟨"cnb", none, "Chinbon Chin"⟩,
  ⟨"cnc", none, "Côông"⟩,
  ⟨"cng", none, "Northern Qiang"⟩,
  ⟨"cnh", none, "Hakha Chin"⟩,
  ⟨"cni", none, "Asháninka"⟩,
  ⟨"cnk", none, "Khumi Chin"⟩,
  ⟨"cnl", none, "Lalana Chinantec"⟩,
  ⟨"cno", none, "Con"⟩,
  ⟨"cnp", none, "Northern Ping Chinese"⟩,
  ⟨"cnq", none, "Chung"⟩,
  ⟨"cnr", none, "Montenegrin"⟩,
  ⟨"cns", none, "Central Asmat"⟩,
  ⟨"cnt", none, "Tepetotutla Chinantec"⟩,
  ⟨"cnu", none, "Chenoua"⟩,
  ⟨"cnw", none, "Ngawn Chin"⟩,
  ⟨"cnx", none, "Middle Cornish"⟩,
  ⟨"coa", none, "Cocos Islands Malay"⟩,
  ⟨"cob", none, "Chicomuceltec"⟩,
  ⟨"coc", none, "Cocopa"⟩,
  ⟨"cod", none, "Cocama-Cocamilla"⟩,
  ⟨"coe", none, "Koreguaje"⟩,
  ⟨"cof", none, "Colorado"⟩,
  ⟨"cog", none, "Chong"⟩,
  ⟨"coh", none, "Chonyi-Dzihana-Kauma"⟩,
  ⟨"coj", none, "Cochimi"⟩,
  ⟨"cok", none, "Santa Teresa Cora"⟩,
  ⟨"col", none, "Columbia-Wenatchi"⟩,
  ⟨"com", none, "Comanche"⟩,
  ⟨"con", none, "Cofán"⟩,
  ⟨"coo", none, "Comox"⟩,
  ⟨"cop", none, "Coptic"⟩,
  ⟨"coq", none, "Coquille"⟩,
  ⟨"cor", some "kw", "Cornish"⟩,
  ⟨"cos", some "co", "Corsican"⟩,
  ⟨"cot", none, "Caquinte"⟩,
  ⟨"cou", none, "Wamey"⟩,
  ⟨"cov", none, "Cao Miao"⟩,
  ⟨"cow", none, "Cowlitz"⟩,
  ⟨"cox", none, "Nanti"⟩,
  ⟨"coz", none, "Chochotec"⟩,
  ⟨"cpa", none, "Palantla Chinantec"⟩,
  ⟨"cpb", none, "Ucayali-Yurúa Ashéninka"⟩,
  ⟨"cpc", none, "Ajyíninka Apurucayali"⟩,
  ⟨"cpg", none, "Cappadocian Greek"⟩,
  ⟨"cpi", none, "Chinese Pidgin English"⟩,
  ⟨"cpn", none, "Cherepon"⟩,
  ⟨"cpo", none, "Kpeego"⟩,
  ⟨"cps", none, "Capiznon"⟩,
  ⟨"cpu", none, "Pichis Ashéninka"⟩,
  ⟨"cpx", none, "Pu-Xian Chinese"⟩,
  ⟨"cpy", none, "South Ucayali Ashéninka"⟩,
  ⟨"cqd", none, "Chuanqiandian Cluster Miao"⟩,
  ⟨"cra", none, "Chara"⟩,
  ⟨"crb", none, "Island Carib"⟩,
  ⟨"crc", none, "Lonwolwol"⟩,
  ⟨"crd", none, "Coeur d'Alene"⟩,
  ⟨"cre", some "cr", "Cree"⟩,
  ⟨"crf", none, "Caramanta"⟩,
  ⟨"crg", none, "Michif"⟩,
  ⟨"crh", none, "Crimean Tatar"⟩,
  ⟨"cri", none, "Sãotomense"⟩,
  ⟨"crj", none, "Southern East Cree"⟩,
  ⟨"crk", none, "Plains Cree"⟩,
  ⟨"crl", none, "Northern East Cree"⟩,
  ⟨"crm", none, "Moose Cree"⟩,
  ⟨"crn", none, "El Nayar Cora"⟩,
  ⟨"cro", none, "Crow"⟩,
  ⟨"crq", none, "Iyo'wujwa Chorote"⟩,
  ⟨"crr", none, "Carolina Algonquian"⟩,
  ⟨"crs", none, "Seselwa Creole French"⟩,
  ⟨"crt", none, "Iyojwa'ja Chorote"⟩,
  ⟨"crv", none, "Chaura"⟩,
  ⟨"crw", none, "Chrau"⟩,
  ⟨"crx", none, "Carrier"⟩,
  ⟨"cry", none, "Cori"⟩,
  ⟨"crz", none, "Cruzeño"⟩,
  ⟨"csa", none, "Chiltepec Chinantec"⟩,
  ⟨"csb", none, "Kashubian"⟩,
  ⟨"csc", none, "Catalan Sign Language"⟩,
  ⟨"csd", none, "Chiangmai Sign Language"⟩,
  ⟨"cse", none, "Czech Sign Language"⟩,
  ⟨"csf", none, "Cuba Sign Language"⟩,
  ⟨"csg", none, "Chilean Sign Language"⟩,
  ⟨"csh", none, "Asho Chin"⟩,
  ⟨"csi", none, "Coast Miwok"⟩,
  ⟨"csj", none, "Songlai Chin"⟩,
  ⟨"csk", none, "Jola-Kasa"⟩,
  ⟨"csl", none, "Chinese Sign Language"⟩,
  ⟨"csm", none, "Central Sierra Miwok"⟩,
  ⟨"csn", none, "Colombian Sign Language"⟩,
  ⟨"cso", none, "Sochiapam Chinantec"⟩,
  ⟨"csp", none, "Southern Ping Chinese"⟩,
  ⟨"csq", none, "Croatia Sign Language"⟩,
  ⟨"csr", none, "Costa Rican Sign Language"⟩,
  ⟨"css", none, "Southern Ohlone"⟩,
  ⟨"cst", none, "Northern Ohlone"⟩,
  ⟨"csv", none, "Sumtu Chin"⟩,
  ⟨"csw", none, "Swampy Cree"⟩,
  ⟨"csx", none, "Cambodian Sign Language"⟩,
  ⟨"csy", none, "Siyin Chin"⟩,
  ⟨"csz", none, "Coos"⟩,
  ⟨"cta", none, "Tataltepec Chatino"⟩,
  ⟨"ctc", none, "Chetco"⟩,
  ⟨"ctd", none, "Tedim Chin"⟩,
  ⟨"cte", none, "Tepinapa Chinantec"⟩,
  ⟨"ctg", none, "Chittagonian"⟩,
  ⟨"cth", none, "Thaiphum Chin"⟩,
  ⟨"ctl", none, "Tlacoatzintepec Chinantec"⟩,
  ⟨"ctm", none, "Chitimacha"⟩,
  ⟨"ctn", none, "Chhintange"⟩,
  ⟨"cto", none, "Emberá-Catío"⟩,
  ⟨"ctp", none, "Western Highland Chatino"⟩,
  ⟨"cts", none, "Northern Catanduanes Bikol"⟩,
  ⟨"ctt", none, "Wayanad Chetti"⟩,
  ⟨"ctu", none, "Chol"⟩,
  ⟨"cty", none, "Moundadan Chetty"⟩,
  ⟨"ctz", none, "Zacatepec Chatino"⟩,
  ⟨"cua", none, "Cua"⟩,
  ⟨"cub", none, "Cubeo"⟩,
  ⟨"cuc", none, "Usila Chinantec"⟩,
  ⟨"cuh", none, "Chuka"⟩,
  ⟨"cui", none, "Cuiba"⟩,
  ⟨"cuj", none, "Mashco Piro"⟩,
  ⟨"cuk", none, "San Blas Kuna"⟩,
  ⟨"cul", none, "Culina"⟩,
  ⟨"cuo", none, "Cumanagoto"⟩,
  ⟨"cup", none, "Cupeño"⟩,
  ⟨"cuq", none, "Cun"⟩,
  ⟨"cur", none, "Chhulung"⟩,
  ⟨"cut", none, "Teutila Cuicatec"⟩,
  ⟨"cuu", none, "Tai Ya"⟩,
  ⟨"cuv", none, "Cuvok"⟩,
  ⟨"cuw", none, "Chukwa"⟩,
  ⟨"cux", none, "Tepeuxila Cuicatec"⟩,
  ⟨"cuy", none, "Cuitlatec"⟩,
  ⟨"cvg", none, "Chug"⟩,
  ⟨"cvn", none, "Valle Nacional Chinantec"⟩,
  ⟨"cwa", none, "Kabwa"⟩,
  ⟨"cwb", none, "Maindo"⟩,
  ⟨"cwd", none, "Woods Cree"⟩,
  ⟨"cwe", none, "Kwere"⟩,
  ⟨"cwg", none, "Chewong"⟩,
  ⟨"cwt", none, "Kuwaataay"⟩,
  ⟨"cya", none, "Nopala Chatino"⟩,
  ⟨"cyb", none, "Cayubaba"⟩,
  ⟨"cym", some "cy", "Welsh"⟩,
  ⟨"cyo", none, "Cuyonon"⟩,
  ⟨"czh", none, "Huizhou Chinese"⟩,
  ⟨"czk", none, "Knaanic"⟩,
  ⟨"czn", none, "Zenzontepec Chatino"⟩,
  ⟨"czo", none, "Min Zhong Chinese"⟩,
  ⟨"czt", none, "Zotung Chin"⟩]

/-- The languages whose three-letter code starts with `d`, in code order. -/
def entriesD : List Entry := [
  ⟨"daa", none, "Dangaléat"⟩,
  ⟨"dac", none, "Dambi"⟩,
  ⟨"dad", none, "Marik"⟩,
  ⟨"dae", none, "Duupa"⟩,
  ⟨"dag", none, "Dagbani"⟩,
  ⟨"dah", none, "Gwahatike"⟩,
  ⟨"dai", none, "Day"⟩,
  ⟨"daj", none, "Dar Fur Daju"⟩,
  ⟨"dak", none, "Dakota"⟩,
  ⟨"dal", none, "Dahalo"⟩,
  ⟨"dam", none, "Damakawa"⟩,
  ⟨"dan", some "da", "Danish"⟩,
  ⟨"dao", none, "Daai Chin"⟩,
  ⟨"daq", none, "Dandami Maria"⟩,
  ⟨"dar", none, "Dargwa"⟩,
  ⟨"das", none, "Daho-Doo"⟩,
  ⟨"dau", none, "Dar Sila Daju"⟩,
  ⟨"dav", none, "Taita"⟩,
  ⟨"daw", none, "Davawenyo"⟩,
  ⟨"dax", none, "Dayi"⟩,
  ⟨"daz", none, "Dao"⟩,
  ⟨"dba", none, "Bangime"⟩,
  ⟨"dbb", none, "Deno"⟩,
  ⟨"dbd", none, "Dadiya"⟩,
  ⟨"dbe", none, "Dabe"⟩,
  ⟨"dbf", none, "Edopi"⟩,
  ⟨"dbg", none, "Dogul Dom Dogon"⟩,
  ⟨"dbi", none, "Doka"⟩,
  ⟨"dbj", none, "Ida'an"⟩,
  ⟨"dbl", none, "Dyirbal"⟩,
  ⟨"dbm", none, "Duguri"⟩,
  ⟨"dbn", none, "Duriankere"⟩,
  ⟨"dbo", none, "Dulbu"⟩,
  ⟨"dbp", none, "Duwai"⟩,
  ⟨"dbq", none, "Daba"⟩,
  ⟨"dbr", none, "Dabarre"⟩,
  ⟨"dbt", none, "Ben Tey Dogon"⟩,
  ⟨"dbu", none, "Bondum Dom Dogon"⟩,
  ⟨"dbv", none, "Dungu"⟩,
  ⟨"dbw", none, "Bankan Tey Dogon"⟩,
  ⟨"dby", none, "Dibiyaso"⟩,
  ⟨"dcc", none, "Deccan"⟩,
  ⟨"dcr", none, "Negerhollands"⟩,
  ⟨"dda", none, "Dadi Dadi"⟩,
  ⟨"ddd", none, "Dongotono"⟩,
  ⟨"dde", none, "Doondo"⟩,
  ⟨"ddg", none, "Fataluku"⟩,
  ⟨"ddi", none, "West Goodenough"⟩,
  ⟨"ddj", none, "Jaru"⟩,
  ⟨"ddn", none, "Dendi"⟩,
  ⟨"ddo", none, "Dido"⟩,
  ⟨"ddr", none, "Dhudhuroa"⟩,
  ⟨"dds", none, "Donno So Dogon"⟩,
  ⟨"ddw", none, "Dawera-Daweloor"⟩,
  ⟨"dec", none, "Dagik"⟩,
  ⟨"ded", none, "Dedua"⟩,
  ⟨"dee", none, "Dewoin"⟩,
  ⟨"def", none, "Dezfuli"⟩,
  ⟨"deg", none, "Degema"⟩,
  ⟨"deh", none, "Dehwari"⟩,
  ⟨"dei", none, "Demisa"⟩,
  ⟨"del", none, "Delaware"⟩,
  ⟨"dem", none, "Dem"⟩,
  ⟨"den", none, "Slave"⟩,
  ⟨"dep", none, "Pidgin Delaware"⟩,
  ⟨"deq", none, "Dendi"⟩,
  ⟨"der", none, "Deori"⟩,
  ⟨"des", none, "Desano"⟩,
  ⟨"deu", some "de", "German"⟩,
  ⟨"dev", none, "Domung"⟩,
  ⟨"dez", none, "Dengese"⟩,
  ⟨"dga", none, "Southern Dagaare"⟩,
  ⟨"dgb", none, "Bunoge Dogon"⟩,
  ⟨"dgc", none, "Casiguran Dumagat Agta"⟩,
  ⟨"dgd", none, "Dagaari Dioula"⟩,
  ⟨"dge", none, "Degenan"⟩,
  ⟨"dgg", none, "Doga"⟩,
  ⟨"dgh", none, "Dghwede"⟩,
  ⟨"dgi", none, "Northern Dagara"⟩,
  ⟨"dgk", none, "Dagba"⟩,
  ⟨"dgl", none, "Andaandi"⟩,
  ⟨"dgn", none, "Dagoman"⟩,
  ⟨"dgo", none, "Dogri"⟩,
  ⟨"dgr", none, "Dogrib"⟩,
  ⟨"dgs", none, "Dogoso"⟩,
  ⟨"dgt", none, "Ndra'ngith"⟩,
  ⟨"dgw", none, "Daungwurrung"⟩,
  ⟨"dgx", none, "Doghoro"⟩,
  ⟨"dgz", none, "Daga"⟩,
  ⟨"dhd", none, "Dhundari"⟩,
  ⟨"dhg", none, "Dhangu-Djangu"⟩,
  ⟨"dhi", none, "Dhimal"⟩,
  ⟨"dhl", none, "Dhalandji"⟩,
  ⟨"dhm", none, "Zemba"⟩,
  ⟨"dhn", none, "Dhanki"⟩,
  ⟨"dho", none, "Dhodia"⟩,
  ⟨"dhr", none, "Dhargari"⟩,
  ⟨"dhs", none, "Dhaiso"⟩,
  ⟨"dhu", none, "Dhurga"⟩,
  ⟨"dhv", none, "Dehu"⟩,
  ⟨"dhw", none, "Dhanwar"⟩,
  ⟨"dhx", none, "Dhungaloo"⟩,
  ⟨"dia", none, "Dia"⟩,
  ⟨"dib", none, "South Central Dinka"⟩,
  ⟨"dic", none, "Lakota Dida"⟩,
  ⟨"did", none, "Didinga"⟩,
  ⟨"dif", none, "Dieri"⟩,
  ⟨"dig", none, "Digo"⟩,
  ⟨"dih", none, "Kumiai"⟩,
  ⟨"dii", none, "Dimbong"⟩,
  ⟨"dij", none, "Dai"⟩,
  ⟨"dik", none, "Southwestern Dinka"⟩,
  ⟨"dil", none, "Dilling"⟩,
  ⟨"dim", none, "Dime"⟩,
  ⟨"din", none, "Dinka"⟩,
  ⟨"dio", none, "Dibo"⟩,
  ⟨"dip", none, "Northeastern Dinka"⟩,
  ⟨"diq", none, "Dimli"⟩,
  ⟨"dir", none, "Dirim"⟩,
  ⟨"dis", none, "Dimasa"⟩,
  ⟨"diu", none, "Diriku"⟩,
  ⟨"div", some "dv", "Dhivehi"⟩,
  ⟨"diw", none, "Northwestern Dinka"⟩,
  ⟨"dix", none, "Dixon Reef"⟩,
  ⟨"diy", none, "Diuwe"⟩,
  ⟨"diz", none, "Ding"⟩,
  ⟨"dja", none, "Djadjawurrung"⟩,
  ⟨"djb", none, "Djinba"⟩,
  ⟨"djc", none, "Dar Daju Daju"⟩,
  ⟨"djd", none, "Djamindjung"⟩,
  ⟨"dje", none, "Zarma"⟩,
  ⟨"djf", none, "Djangun"⟩,
  ⟨"dji", none, "Djinang"⟩,
  ⟨"djj", none, "Djeebbana"⟩,
  ⟨"djk", none, "Eastern Maroon Creole"⟩,
  ⟨"djm", none, "Jamsay Dogon"⟩,
  ⟨"djn", none, "Jawoyn"⟩,
  ⟨"djo", none, "Jangkang"⟩,
  ⟨"djr", none, "Djambarrpuyngu"⟩,
  ⟨"dju", none, "Kapriman"⟩,
  ⟨"djw", none, "Djawi"⟩,
  ⟨"dka", none, "Dakpakha"⟩,
  ⟨"dkg", none, "Kadung"⟩,
  ⟨"dkk", none, "Dakka"⟩,
  ⟨"dkr", none, "Kuijau"⟩,
  ⟨"dks", none, "Southeastern Dinka"⟩,
  ⟨"dkx", none, "Mazagway"⟩,
  ⟨"dlg", none, "Dolgan"⟩,
  ⟨"dlk", none, "Dahalik"⟩,
  ⟨"dlm", none, "Dalmatian"⟩,
  ⟨"dln", none, "Darlong"⟩,
  ⟨"dma", none, "Duma"⟩,
  ⟨"dmb", none, "Mombo Dogon"⟩,
  ⟨"dmc", none, "Gavak"⟩,
  ⟨"dmd", none, "Madhi Madhi"⟩,
  ⟨"dme", none, "Dugwor"⟩,
  ⟨"dmf", none, "Medefaidrin"⟩,
  ⟨"dmg", none, "Upper Kinabatangan"⟩,
  ⟨"dmk", none, "Domaaki"⟩,
  ⟨"dml", none, "Dameli"⟩,
  ⟨"dmm", none, "Dama"⟩,
  ⟨"dmo", none, "Kemedzung"⟩,
  ⟨"dmr", none, "East Damar"⟩,
  ⟨"dms", none, "Dampelas"⟩,
  ⟨"dmu", none, "Dubu"⟩,
  ⟨"dmv", none, "Dumpas"⟩,
  ⟨"dmw", none, "Mudburra"⟩,
  ⟨"dmx", none, "Dema"⟩,
  ⟨"dmy", none, "Demta"⟩,
  ⟨"dna", none, "Upper Grand Valley Dani"⟩,
  ⟨"dnd", none, "Daonda"⟩,
  ⟨"dne", none, "Ndendeule"⟩,
  ⟨"dng", none, "Dungan"⟩,
  ⟨"dni", none, "Lower Grand Valley Dani"⟩,
  ⟨"dnj", none, "Dan"⟩,
  ⟨"dnk", none, "Dengka"⟩,
  ⟨"dnn", none, "Dzùùngoo"⟩,
  ⟨"dno", none, "Ndrulo"⟩,
  ⟨"dnr", none, "Danaru"⟩,
  ⟨"dnt", none, "Mid Grand Valley Dani"⟩,
  ⟨"dnu", none, "Danau"⟩,
  ⟨"dnv", none, "Danu"⟩,
  ⟨"dnw", none, "Western Dani"⟩,
  ⟨"dny", none, "Dení"⟩,
  ⟨"doa", none, "Dom"⟩,
  ⟨"dob", none, "Dobu"⟩,
  ⟨"doc", none, "Northern Dong"⟩,
  ⟨"doe", none, "Doe"⟩,
  ⟨"dof", none, "Domu"⟩,
  ⟨"doh", none, "Dong"⟩,
  ⟨"doi", none, "Dogri"⟩,
  ⟨"dok", none, "Dondo"⟩,
  ⟨"dol", none, "Doso"⟩,
  ⟨"don", none, "Toura"⟩,
  ⟨"doo", none, "Dongo"⟩,
  ⟨"dop", none, "Lukpa"⟩,
  ⟨"doq", none, "Dominican Sign Language"⟩,
  ⟨"dor", none, "Dori'o"⟩,
  ⟨"dos", none, "Dogosé"⟩,
  ⟨"dot", none, "Dass"⟩,
  ⟨"dov", none, "Dombe"⟩,
  ⟨"dow", none, "Doyayo"⟩,
  ⟨"dox", none, "Bussa"⟩,
  ⟨"doy", none, "Dompo"⟩,
  ⟨"doz", none, "Dorze"⟩,
  ⟨"dpp", none, "Papar"⟩,
  ⟨"drb", none, "Dair"⟩,
  ⟨"drc", none, "Minderico"⟩,
  ⟨"drd", none, "Darmiya"⟩,
  ⟨"dre", none, "Dolpo"⟩,
  ⟨"drg", none, "Rungus"⟩,
  ⟨"dri", none, "C'Lela"⟩,
  ⟨"drl", none, "Paakantyi"⟩,
  ⟨"drn", none, "West Damar"⟩,
  ⟨"dro", none, "Daro-Matu Melanau"⟩,
  ⟨"drq", none, "Dura"⟩,
  ⟨"drs", none, "Gedeo"⟩,
  ⟨"drt", none, "Drents"⟩,
  ⟨"dru", none, "Rukai"⟩,
  ⟨"dry", none, "Darai"⟩,
  ⟨"dsb", none, "Lower Sorbian"⟩,
  ⟨"dse", none, "Dutch Sign Language"⟩,
  ⟨"dsh", none, "Daasanach"⟩,
  ⟨"dsi", none, "Disa"⟩,
  ⟨"dsl", none, "Danish Sign Language"⟩,
  ⟨"dsn", none, "Dusner"⟩,
  ⟨"dso", none, "Desiya"⟩,
  ⟨"dsq", none, "Tadaksahak"⟩,
  ⟨"dta", none, "Daur"⟩,
  ⟨"dtb", none, "Labuk-Kinabatangan Kadazan"⟩,
  ⟨"dtd", none, "Ditidaht"⟩,
  ⟨"dth", none, "Adithinngithigh"⟩,
  ⟨"dti", none, "Ana Tinga Dogon"⟩,
  ⟨"dtk", none, "Tene Kan Dogon"⟩,
  ⟨"dtm", none, "Tomo Kan Dogon"⟩,
  ⟨"dtn", none, "Daatsʼíin"⟩,
  ⟨"dto", none, "Tommo So Dogon"⟩,
  ⟨"dtp", none, "Kadazan Dusun"⟩,
  ⟨"dtr", none, "Lotud"⟩,
  ⟨"dts", none, "Toro So Dogon"⟩,
  ⟨"dtt", none, "Toro Tegu Dogon"⟩,
  ⟨"dtu", none, "Tebul Ure Dogon"⟩,
  ⟨"dty", none, "Dotyali"⟩,
  ⟨"dua", none, "Duala"⟩,
  ⟨"dub", none, "Dubli"⟩,
  ⟨"duc", none, "Duna"⟩,
  ⟨"due", none, "Umiray Dumaget Agta"⟩,
  ⟨"duf", none, "Dumbea"⟩,
  ⟨"dug", none, "Duruma"⟩,
  ⟨"duh", none, "Dungra Bhil"⟩,
  ⟨"dui", none, "Dumun"⟩,
  ⟨"duk", none, "Uyajitaya"⟩,
  ⟨"dul", none, "Alabat Island Agta"⟩,
  ⟨"dum", none, "Middle Dutch"⟩,
  ⟨"dun", none, "Dusun Deyah"⟩,
  ⟨"duo", none, "Dupaninan Agta"⟩,
  ⟨"dup", none, "Duano"⟩,
  ⟨"duq", none, "Dusun Malang"⟩,
  ⟨"dur", none, "Dii"⟩,
  ⟨"dus", none, "Dumi"⟩,
  ⟨"duu", none, "Drung"⟩,
  ⟨"duv", none, "Duvle"⟩,
  ⟨"duw", none, "Dusun Witu"⟩,
  ⟨"dux", none, "Duungooma"⟩,
  ⟨"duy", none, "Dicamay Agta"⟩,
  ⟨"duz", none, "Duli-Gey"⟩,
  ⟨"dva", none, "Duau"⟩,
  ⟨"dwa", none, "Diri"⟩,
  ⟨"dwk", none, "Dawik Kui"⟩,
  ⟨"dwr", none, "Dawro"⟩,
  ⟨"dws", none, "Dutton World Speedwords"⟩,
  ⟨"dwu", none, "Dhuwal"⟩,
  ⟨"dww", none, "Dawawa"⟩,
  ⟨"dwy", none, "Dhuwaya"⟩,
  ⟨"dwz", none, "Dewas Rai"⟩,
  ⟨"dya", none, "Dyan"⟩,
  ⟨"dyb", none, "Dyaberdyaber"⟩,
  ⟨"dyd", none, "Dyugun"⟩,
  ⟨"dyg", none, "Villa Viciosa Agta"⟩,
  ⟨"dyi", none, "Djimini Senoufo"⟩,
  ⟨"dym", none, "Yanda Dom Dogon"⟩,
  ⟨"dyn", none, "Dyangadi"⟩,
  ⟨"dyo", none, "Jola-Fonyi"⟩,
  ⟨"dyu", none, "Dyula"⟩,
  ⟨"dyy", none, "Djabugay"⟩,
  ⟨"dza", none, "Tunzu"⟩,
  ⟨"dzd", none, "Daza"⟩,
  ⟨"dze", none, "Djiwarli"⟩,
  ⟨"dzg", none, "Dazaga"⟩,
  ⟨"dzl", none, "Dzalakha"⟩,
  ⟨"dzn", none, "Dzando"⟩,
  ⟨"dzo", some "dz", "Dzongkha"⟩]

/-- The languages whose three-letter code starts with `e`, in code order. -/
def entriesE : List Entry := [
  ⟨"eaa", none, "Karenggapa"⟩,
  ⟨"ebc", none, "Beginci"⟩,
  ⟨"ebg", none, "Ebughu"⟩,
  ⟨"ebk", none, "Eastern Bontok"⟩,
  ⟨"ebo", none, "Teke-Ebo"⟩,
  ⟨"ebr", none, "Ebrié"⟩,
  ⟨"ebu", none, "Embu"⟩,
  ⟨"ecr", none, "Eteocretan"⟩,
  ⟨"ecs", none, "Ecuadorian Sign Language"⟩,
  ⟨"ecy", none, "Eteocypriot"⟩,
  ⟨"eee", none, "E"⟩,
  ⟨"efa", none, "Efai"⟩,
  ⟨"efe", none, "Efe"⟩,
  ⟨"efi", none, "Efik"⟩,
  ⟨"ega", none, "Ega"⟩,
  ⟨"egl", none, "Emilian"⟩,
  ⟨"ego", none, "Eggon"⟩,
  ⟨"egy", none, "Egyptian"⟩,
  ⟨"ehu", none, "Ehueun"⟩,
  ⟨"eip", none, "Eipomek"⟩,
  ⟨"eit", none, "Eitiep"⟩,
  ⟨"eiv", none, "Askopan"⟩,
  ⟨"eja", none, "Ejamat"⟩,
  ⟨"eka", none, "Ekajuk"⟩,
  ⟨"eke", none, "Ekit"⟩,
  ⟨"ekg", none, "Ekari"⟩,
  ⟨"eki", none, "Eki"⟩,
  ⟨"ekk", none, "Standard Estonian"⟩,
  ⟨"ekl", none, "Kol"⟩,
  ⟨"ekm", none, "Elip"⟩,
  ⟨"eko", none, "Koti"⟩,
  ⟨"ekp", none, "Ekpeye"⟩,
  ⟨"ekr", none, "Yace"⟩,
  ⟨"eky", none, "Eastern Kayah"⟩,
  ⟨"ele", none, "Elepi"⟩,
  ⟨"elh", none, "El Hugeirat"⟩,
  ⟨"eli", none, "Nding"⟩,
  ⟨"elk", none, "Elkei"⟩,
  ⟨"ell", some "el", "Modern Greek"⟩,
  ⟨"elm", none, "Eleme"⟩,
  ⟨"elo", none, "El Molo"⟩,
  ⟨"elu", none, "Elu"⟩,
  ⟨"elx", none, "Elamite"⟩,
  ⟨"ema", none, "Emai-Iuleha-Ora"⟩,
  ⟨"emb", none, "Embaloh"⟩,
  ⟨"eme", none, "Emerillon"⟩,
  ⟨"emg", none, "Eastern Meohang"⟩,
  ⟨"emi", none, "Mussau-Emira"⟩,
  ⟨"emk", none, "Eastern Maninkakan"⟩,
  ⟨"emm", none, "Mamulique"⟩,
  ⟨"emn", none, "Eman"⟩,
  ⟨"emp", none, "Northern Emberá"⟩,
  ⟨"ems", none, "Pacific Gulf Yupik"⟩,
  ⟨"emu", none, "Eastern Muria"⟩,
  ⟨"emw", none, "Emplawas"⟩,
  ⟨"emx", none, "Erromintxela"⟩,
  ⟨"emy", none, "Epigraphic Mayan"⟩,
  ⟨"ena", none, "Apali"⟩,
  ⟨"enb", none, "Markweeta"⟩,
  ⟨"enc", none, "En"⟩,
  ⟨"end", none, "Ende"⟩,
  ⟨"enf", none, "Forest Enets"⟩,
  ⟨"eng", some "en", "English"⟩,
  ⟨"enh", none, "Tundra Enets"⟩,
  ⟨"enl", none, "Enlhet"⟩,
  ⟨"enm", none, "Middle English"⟩,
  ⟨"enn", none, "Engenni"⟩,
  ⟨"eno", none, "Enggano"⟩,
  ⟨"enq", none, "Enga"⟩,
  ⟨"enr", none, "Emumu"⟩,
  ⟨"enu", none, "Enu"⟩,
  ⟨"env", none, "Enwan"⟩,
  ⟨"enw", none, "Enwan"⟩,
  ⟨"enx", none, "Enxet"⟩,
  ⟨"eot", none, "Beti"⟩,
  ⟨"epi", none, "Epie"⟩,
  ⟨"epo", some "eo", "Esperanto"⟩,
  ⟨"era", none, "Eravallan"⟩,
  ⟨"erg", none, "Sie"⟩,
  ⟨"erh", none, "Eruwa"⟩,
  ⟨"eri", none, "Ogea"⟩,
  ⟨"erk", none, "South Efate"⟩,
  ⟨"ero", none, "Horpa"⟩,
  ⟨"err", none, "Erre"⟩,
  ⟨"ers", none, "Ersu"⟩,
  ⟨"ert", none, "Eritai"⟩,
  ⟨"erw", none, "Erokwanas"⟩,
  ⟨"ese", none, "Ese Ejja"⟩,
  ⟨"esg", none, "Aheri Gondi"⟩,
  ⟨"esh", none, "Eshtehardi"⟩,
  ⟨"esi", none, "North Alaskan Inupiatun"⟩,
  ⟨"esk", none, "Northwest Alaska Inupiatun"⟩,
  ⟨"esl", none, "Egypt Sign Language"⟩,
  ⟨"esm", none, "Esuma"⟩,
  ⟨"esn", none, "Salvadoran Sign Language"⟩,
  ⟨"eso", none, "Estonian Sign Language"⟩,
  ⟨"esq", none, "Esselen"⟩,
  ⟨"ess", none, "Central Siberian Yupik"⟩,
  ⟨"est", some "et", "Estonian"⟩,
  ⟨"esu", none, "Central Yupik"⟩,
  ⟨"esy", none, "Eskayan"⟩,
  ⟨"etb", none, "Etebi"⟩,
  ⟨"etc", none, "Etchemin"⟩,
  ⟨"eth", none, "Ethiopian Sign Language"⟩,
  ⟨"etn", none, "Eton"⟩,
  ⟨"eto", none, "Eton"⟩,
  ⟨"etr", none, "Edolo"⟩,
  ⟨"ets", none, "Yekhee"⟩,
  ⟨"ett", none, "Etruscan"⟩,
  ⟨"etu", none, "Ejagham"⟩,
  ⟨"etx", none, "Eten"⟩,
  ⟨"etz", none, "Semimi"⟩,
  ⟨"eus", some "eu", "Basque"⟩,
  ⟨"eve", none, "Even"⟩,
  ⟨"evh", none, "Uvbie"⟩,
  ⟨"evn", none, "Evenki"⟩,
  ⟨"ewe", some "ee", "Ewe"⟩,
  ⟨"ewo", none, "Ewondo"⟩,
  ⟨"ext", none, "Extremaduran"⟩,
  ⟨"eya", none, "Eyak"⟩,
  ⟨"eyo", none, "Keiyo"⟩,
  ⟨"eza", none, "Ezaa"⟩,
  ⟨"eze", none, "Uzekwe"⟩]

/-- The languages whose three-letter code starts with `f`, in code order. -/
def entriesF : List Entry := [
  ⟨"faa", none, "Fasu"⟩,
  ⟨"fab", none, "Fa d'Ambu"⟩,
  ⟨"fad", none, "Wagi"⟩,
  ⟨"faf", none, "Fagani"⟩,
  ⟨"fag", none, "Finongan"⟩,
  ⟨"fah", none, "Baissa Fali"⟩,
  ⟨"fai", none, "Faiwol"⟩,
  ⟨"faj", none, "Faita"⟩,
  ⟨"fak", none, "Fang"⟩,
  ⟨"fal", none, "South Fali"⟩,
  ⟨"fam", none, "Fam"⟩,
  ⟨"fan", none, "Fang"⟩,
  ⟨"fao", some "fo", "Faroese"⟩,
  ⟨"fap", none, "Paloor"⟩,
  ⟨"far", none, "Fataleka"⟩,
  ⟨"fas", some "fa", "Persian"⟩,
  ⟨"fat", none, "Fanti"⟩,
  ⟨"fau", none, "Fayu"⟩,
  ⟨"fax", none, "Fala"⟩,
  ⟨"fay", none, "Southwestern Fars"⟩,
  ⟨"faz", none, "Northwestern Fars"⟩,
  ⟨"fbl", none, "West Albay Bikol"⟩,
  ⟨"fcs", none, "Quebec Sign Language"⟩,
  ⟨"fer", none, "Feroge"⟩,
  ⟨"ffi", none, "Foia Foia"⟩,
  ⟨"ffm", none, "Maasina Fulfulde"⟩,
  ⟨"fgr", none, "Fongoro"⟩,
  ⟨"fia", none, "Nobiin"⟩,
  ⟨"fie", none, "Fyer"⟩,
  ⟨"fif", none, "Faifi"⟩,
  ⟨"fij", some "fj", "Fijian"⟩,
  ⟨"fil", none, "Filipino"⟩,
  ⟨"fin", some "fi", "Finnish"⟩,
  ⟨"fip", none, "Fipa"⟩,
  ⟨"fir", none, "Firan"⟩,
  ⟨"fit", none, "Tornedalen Finnish"⟩,
  ⟨"fiw", none, "Fiwaga"⟩,
  ⟨"fkk", none, "Kirya-Konzəl"⟩,
  ⟨"fkv", none, "Kven Finnish"⟩,
  ⟨"fla", none, "Kalispel-Pend d'Oreille"⟩,
  ⟨"flh", none, "Foau"⟩,
  ⟨"fli", none, "Fali"⟩,
  ⟨"fll", none, "North Fali"⟩,
  ⟨"fln", none, "Flinders Island"⟩,
  ⟨"flr", none, "Fuliiru"⟩,
  ⟨"fly", none, "Flaaitaal"⟩,
  ⟨"fmp", none, "Fe'fe'"⟩,
  ⟨"fmu", none, "Far Western Muria"⟩,
  ⟨"fnb", none, "Fanbak"⟩,
  ⟨"fng", none, "Fanagalo"⟩,
  ⟨"fni", none, "Fania"⟩,
  ⟨"fod", none, "Foodo"⟩,
  ⟨"foi", none, "Foi"⟩,
  ⟨"fom", none, "Foma"⟩,
  ⟨"fon", none, "Fon"⟩,
  ⟨"for", none, "Fore"⟩,
  ⟨"fos", none, "Siraya"⟩,
  ⟨"fpe", none, "Fernando Po Creole English"⟩,
  ⟨"fqs", none, "Fas"⟩,
  ⟨"fra", some "fr", "French"⟩,
  ⟨"frc", none, "Cajun French"⟩,
  ⟨"frd", none, "Fordata"⟩,
  ⟨"frk", none, "Frankish"⟩,
  ⟨"frm", none, "Middle French"⟩,
  ⟨"fro", none, "Old French"⟩,
  ⟨"frp", none, "Arpitan"⟩,
  ⟨"frq", none, "Forak"⟩,
  ⟨"frr", none, "Northern Frisian"⟩,
  ⟨"frs", none, "Eastern Frisian"⟩,
  ⟨"frt", none, "Fortsenal"⟩,
  ⟨"fry", some "fy", "Western Frisian"⟩,
  ⟨"fse", none, "Finnish Sign Language"⟩,
  ⟨"fsl", none, "French Sign Language"⟩,
  ⟨"fss", none, "Finland-Swedish Sign Language"⟩,
  ⟨"fub", none, "Adamawa Fulfulde"⟩,
  ⟨"fuc", none, "Pulaar"⟩,
  ⟨"fud", none, "East Futuna"⟩,
  ⟨"fue", none, "Borgu Fulfulde"⟩,
  ⟨"fuf", none, "Pular"⟩,
  ⟨"fuh", none, "Western Niger Fulfulde"⟩,
  ⟨"fui", none, "Bagirmi Fulfulde"⟩,
  ⟨"fuj", none, "Ko"⟩,
  ⟨"ful", some "ff", "Fulah"⟩,
  ⟨"fum", none, "Fum"⟩,
  ⟨"fun", none, "Fulniô"⟩,
  ⟨"fuq", none, "Central-Eastern Niger Fulfulde"⟩,
  ⟨"fur", none, "Friulian"⟩,
  ⟨"fut", none, "Futuna-Aniwa"⟩,
  ⟨"fuu", none, "Furu"⟩,
  ⟨"fuv", none, "Nigerian Fulfulde"⟩,
  ⟨"fuy", none, "Fuyug"⟩,
  ⟨"fvr", none, "Fur"⟩,
  ⟨"fwa", none, "Fwâi"⟩,
  ⟨"fwe", none, "Fwe"⟩]

/-- The languages whose three-letter code starts with `g`, in code order. -/
def entriesG : List Entry := [
  ⟨"gaa", none, "Ga"⟩,
  ⟨"gab", none, "Gabri"⟩,
  ⟨"gac", none, "Mixed Great Andamanese"⟩,
  ⟨"gad", none, "Gaddang"⟩,
  ⟨"gae", none, "Guarequena"⟩,
  ⟨"gaf", none, "Gende"⟩,
  ⟨"gag", none, "Gagauz"⟩,
  ⟨"gah", none, "Alekano"⟩,
  ⟨"gai", none, "Borei"⟩,
  ⟨"gaj", none, "Gadsup"⟩,
  ⟨"gak", none, "Gamkonora"⟩,
  ⟨"gal", none, "Galolen"⟩,
  ⟨"gam", none, "Kandawo"⟩,
  ⟨"gan", none, "Gan Chinese"⟩,
  ⟨"gao", none, "Gants"⟩,
  ⟨"gap", none, "Gal"⟩,
  ⟨"gaq", none, "Gata'"⟩,
  ⟨"gar", none, "Galeya"⟩,
  ⟨"gas", none, "Adiwasi Garasia"⟩,
  ⟨"gat", none, "Kenati"⟩,
  ⟨"gau", none, "Mudhili Gadaba"⟩,
  ⟨"gaw", none, "Nobonob"⟩,
  ⟨"gax", none, "Borana-Arsi-Guji Oromo"⟩,
  ⟨"gay", none, "Gayo"⟩,
  ⟨"gaz", none, "West Central Oromo"⟩,
  ⟨"gba", none, "Gbaya"⟩,
  ⟨"gbb", none, "Kaytetye"⟩,
  ⟨"gbd", none, "Karajarri"⟩,
  ⟨"gbe", none, "Niksek"⟩,
  ⟨"gbf", none, "Gaikundi"⟩,
  ⟨"gbg", none, "Gbanziri"⟩,
  ⟨"gbh", none, "Defi Gbe"⟩,
  ⟨"gbi", none, "Galela"⟩,
  ⟨"gbj", none, "Bodo Gadaba"⟩,
  ⟨"gbk", none, "Gaddi"⟩,
  ⟨"gbl", none, "Gamit"⟩,
  ⟨"gbm", none, "Garhwali"⟩,
  ⟨"gbn", none, "Mo'da"⟩,
  ⟨"gbo", none, "Northern Grebo"⟩,
  ⟨"gbp", none, "Gbaya-Bossangoa"⟩,
  ⟨"gbq", none, "Gbaya-Bozoum"⟩,
  ⟨"gbr", none, "Gbagyi"⟩,
  ⟨"gbs", none, "Gbesi Gbe"⟩,
  ⟨"gbu", none, "Gagadu"⟩,
  ⟨"gbv", none, "Gbanu"⟩,
  ⟨"gbw", none, "Gabi-Gabi"⟩,
  ⟨"gbx", none, "Eastern Xwla Gbe"⟩,
  ⟨"gby", none, "Gbari"⟩,
  ⟨"gbz", none, "Zoroastrian Dari"⟩,
  ⟨"gcc", none, "Mali"⟩,
  ⟨"gcd", none, "Ganggalida"⟩,
  ⟨"gce", none, "Galice"⟩,
  ⟨"gcf", none, "Guadeloupean Creole French"⟩,
  ⟨"gcl", none, "Grenadian Creole English"⟩,
  ⟨"gcn", none, "Gaina"⟩,
  ⟨"gcr", none, "Guianese Creole French"⟩,
  ⟨"gct", none, "Colonia Tovar German"⟩,
  ⟨"gda", none, "Gade Lohar"⟩,
  ⟨"gdb", none, "Pottangi Ollar Gadaba"⟩,
  ⟨"gdc", none, "Gugu Badhun"⟩,
  ⟨"gdd", none, "Gedaged"⟩,
  ⟨"gde", none, "Gude"⟩,
  ⟨"gdf", none, "Guduf-Gava"⟩,
  ⟨"gdg", none, "Ga'dang"⟩,
  ⟨"gdh", none, "Gadjerawang"⟩,
  ⟨"gdi", none, "Gundi"⟩,
  ⟨"gdj", none, "Gurdjar"⟩,
  ⟨"gdk", none, "Gadang"⟩,
  ⟨"gdl", none, "Dirasha"⟩,
  ⟨"gdm", none, "Laal"⟩,
  ⟨"gdn", none, "Umanakaina"⟩,
  ⟨"gdo", none, "Ghodoberi"⟩,
  ⟨"gdq", none, "Mehri"⟩,
  ⟨"gdr", none, "Wipi"⟩,
  ⟨"gds", none, "Ghandruk Sign Language"⟩,
  ⟨"gdt", none, "Kungardutyi"⟩,
  ⟨"gdu", none, "Gudu"⟩,
  ⟨"gdx", none, "Godwari"⟩,
  ⟨"gea", none, "Geruma"⟩,
  ⟨"geb", none, "Kire"⟩,
  ⟨"gec", none, "Gboloo Grebo"⟩,
  ⟨"ged", none, "Gade"⟩,
  ⟨"gef", none, "Gerai"⟩,
  ⟨"geg", none, "Gengle"⟩,
  ⟨"geh", none, "Hutterite German"⟩,
  ⟨"gei", none, "Gebe"⟩,
  ⟨"gej", none, "Gen"⟩,
  ⟨"gek", none, "Ywom"⟩,
  ⟨"gel", none, "ut-Ma'in"⟩,
  ⟨"geq", none, "Geme"⟩,
  ⟨"ges", none, "Geser-Gorom"⟩,
  ⟨"gev", none, "Eviya"⟩,
  ⟨"gew", none, "Gera"⟩,
  ⟨"gex", none, "Garre"⟩,
  ⟨"gey", none, "Enya"⟩,
  ⟨"gez", none, "Geez"⟩,
  ⟨"gfk", none, "Patpatar"⟩,
  ⟨"gft", none, "Gafat"⟩,
  ⟨"gga", none, "Gao"⟩,
  ⟨"ggb", none, "Gbii"⟩,
  ⟨"ggd", none, "Gugadj"⟩,
  ⟨"gge", none, "Gurr-goni"⟩,
  ⟨"ggg", none, "Gurgula"⟩,
  ⟨"ggk", none, "Kungarakany"⟩,
  ⟨"ggl", none, "Ganglau"⟩,
  ⟨"ggt", none, "Gitua"⟩,
  ⟨"ggu", none, "Gagu"⟩,
  ⟨"ggw", none, "Gogodala"⟩,
  ⟨"gha", none, "Ghadamès"⟩,
  ⟨"ghc", none, "Hiberno-Scottish Gaelic"⟩,
  ⟨"ghe", none, "Southern Ghale"⟩,
  ⟨"ghh", none, "Northern Ghale"⟩,
  ⟨"ghk", none, "Geko Karen"⟩,
  ⟨"ghl", none, "Ghulfan"⟩,
  ⟨"ghn", none, "Ghanongga"⟩,
  ⟨"gho", none, "Ghomara"⟩,
  ⟨"ghr", none, "Ghera"⟩,
  ⟨"ghs", none, "Guhu-Samane"⟩,
  ⟨"ght", none, "Kuke"⟩,
  ⟨"gia", none, "Kija"⟩,
  ⟨"gib", none, "Gibanawa"⟩,
  ⟨"gic", none, "Gail"⟩,
  ⟨"gid", none, "Gidar"⟩,
  ⟨"gie", none, "Gaɓogbo"⟩,
  ⟨"gig", none, "Goaria"⟩,
  ⟨"gih", none, "Githabul"⟩,
  ⟨"gii", none, "Girirra"⟩,
  ⟨"gil", none, "Gilbertese"⟩,
  ⟨"gim", none, "Gimi"⟩,
  ⟨"gin", none, "Hinukh"⟩,
  ⟨"gip", none, "Gimi"⟩,
  ⟨"giq", none, "Green Gelao"⟩,
  ⟨"gir", none, "Red Gelao"⟩,
  ⟨"gis", none, "North Giziga"⟩,
  ⟨"git", none, "Gitxsan"⟩,
  ⟨"giu", none, "Mulao"⟩,
  ⟨"giw", none, "White Gelao"⟩,
  ⟨"gix", none, "Gilima"⟩,
  ⟨"giy", none, "Giyug"⟩,
  ⟨"giz", none, "South Giziga"⟩,
  ⟨"gjk", none, "Kachi Koli"⟩,
  ⟨"gjm", none, "Gunditjmara"⟩,
  ⟨"gjn", none, "Gonja"⟩,
  ⟨"gjr", none, "Gurindji Kriol"⟩,
  ⟨"gju", none, "Gujari"⟩,
  ⟨"gka", none, "Guya"⟩,
  ⟨"gkd", none, "Magɨ"⟩,
  ⟨"gke", none, "Ndai"⟩,
  ⟨"gkn", none, "Gokana"⟩,
  ⟨"gko", none, "Kok-Nar"⟩,
  ⟨"gkp", none, "Guinea Kpelle"⟩,
  ⟨"gku", none, "ǂUngkue"⟩,
  ⟨"gla", some "gd", "Scottish Gaelic"⟩,
  ⟨"glc", none, "Bon Gula"⟩,
  ⟨"gld", none, "Nanai"⟩,
  ⟨"gle", some "ga", "Irish"⟩,
  ⟨"glg", some "gl", "Galician"⟩,
  ⟨"glh", none, "Northwest Pashai"⟩,
  ⟨"glj", none, "Gula Iro"⟩,
  ⟨"glk", none, "Gilaki"⟩,
  ⟨"gll", none, "Garlali"⟩,
  ⟨"glo", none, "Galambu"⟩,
  ⟨"glr", none, "Glaro-Twabo"⟩,
  ⟨"glu", none, "Gula"⟩,
  ⟨"glv", some "gv", "Manx"⟩,
  ⟨"glw", none, "Glavda"⟩,
  ⟨"gly", none, "Gule"⟩,
  ⟨"gma", none, "Gambera"⟩,
  ⟨"gmb", none, "Gula'alaa"⟩,
  ⟨"gmd", none, "Mághdì"⟩,
  ⟨"gmg", none, "Magɨyi"⟩,
  ⟨"gmh", none, "Middle High German"⟩,
  ⟨"gml", none, "Middle Low German"⟩,
  ⟨"gmm", none, "Gbaya-Mbodomo"⟩,
  ⟨"gmn", none, "Gimnime"⟩,
  ⟨"gmr", none, "Mirning"⟩,
  ⟨"gmu", none, "Gumalu"⟩,
  ⟨"gmv", none, "Gamo"⟩,
  ⟨"gmx", none, "Magoma"⟩,
  ⟨"gmy", none, "Mycenaean Greek"⟩,
  ⟨"gmz", none, "Mgbolizhia"⟩,
  ⟨"gna", none, "Kaansa"⟩,
  ⟨"gnb", none, "Gangte"⟩,
  ⟨"gnc", none, "Guanche"⟩,
  ⟨"gnd", none, "Zulgo-Gemzek"⟩,
  ⟨"gne", none, "Ganang"⟩,
  ⟨"gng", none, "Ngangam"⟩,
  ⟨"gnh", none, "Lere"⟩,
  ⟨"gni", none, "Gooniyandi"⟩,
  ⟨"gnj", none, "Ngen"⟩,
  ⟨"gnk", none, "ǁGana"⟩,
  ⟨"gnl", none, "Gangulu"⟩,
  ⟨"gnm", none, "Ginuman"⟩,
  ⟨"gnn", none, "Gumatj"⟩,
  ⟨"gno", none, "Northern Gondi"⟩,
  ⟨"gnq", none, "Gana"⟩,
  ⟨"gnr", none, "Gureng Gureng"⟩,
  ⟨"gnt", none, "Guntai"⟩,
  ⟨"gnu", none, "Gnau"⟩,
  ⟨"gnw", none, "Western Bolivian Guaraní"⟩,
  ⟨"gnz", none, "Ganzi"⟩,
  ⟨"goa", none, "Guro"⟩,
  ⟨"gob", none, "Playero"⟩,
  ⟨"goc", none, "Gorakor"⟩,
  ⟨"god", none, "Godié"⟩,
  ⟨"goe", none, "Gongduk"⟩,
  ⟨"gof", none, "Gofa"⟩,
  ⟨"gog", none, "Gogo"⟩,
  ⟨"goh", none, "Old High German"⟩,
  ⟨"goi", none, "Gobasi"⟩,
  ⟨"goj", none, "Gowlan"⟩,
  ⟨"gok", none, "Gowli"⟩,
  ⟨"gol", none, "Gola"⟩,
  ⟨"gom", none, "Goan Konkani"⟩,
  ⟨"gon", none, "Gondi"⟩,
  ⟨"goo", none, "Gone Dau"⟩,
  ⟨"gop", none, "Yeretuar"⟩,
  ⟨"goq", none, "Gorap"⟩,
  ⟨"gor", none, "Gorontalo"⟩,
  ⟨"gos", none, "Gronings"⟩,
  ⟨"got", none, "Gothic"⟩,
  ⟨"gou", none, "Gavar"⟩,
  ⟨"gov", none, "Goo"⟩,
  ⟨"gow", none, "Gorowa"⟩,
  ⟨"gox", none, "Gobu"⟩,
  ⟨"goy", none, "Goundo"⟩,
  ⟨"goz", none, "Gozarkhani"⟩,
  ⟨"gpa", none, "Gupa-Abawa"⟩,
  ⟨"gpe", none, "Ghanaian Pidgin English"⟩,
  ⟨"gpn", none, "Taiap"⟩,
  ⟨"gqa", none, "Ga'anda"⟩,
  ⟨"gqi", none, "Guiqiong"⟩,
  ⟨"gqn", none, "Guana"⟩,
  ⟨"gqr", none, "Gor"⟩,
  ⟨"gqu", none, "Qau"⟩,
  ⟨"gra", none, "Rajput Garasia"⟩,
  ⟨"grb", none, "Grebo"⟩,
  ⟨"grc", none, "Ancient Greek"⟩,
  ⟨"grd", none, "Guruntum-Mbaaru"⟩,
  ⟨"grg", none, "Madi"⟩,
  ⟨"grh", none, "Gbiri-Niragu"⟩,
  ⟨"gri", none, "Ghari"⟩,
  ⟨"grj", none, "Southern Grebo"⟩,
  ⟨"grm", none, "Kota Marudu Talantang"⟩,
  ⟨"grn", some "gn", "Guarani"⟩,
  ⟨"gro", none, "Groma"⟩,
  ⟨"grq", none, "Gorovu"⟩,
  ⟨"grr", none, "Taznatit"⟩,
  ⟨"grs", none, "Gresi"⟩,
  ⟨"grt", none, "Garo"⟩,
  ⟨"gru", none, "Kistane"⟩,
  ⟨"grv", none, "Central Grebo"⟩,
  ⟨"grw", none, "Gweda"⟩,
  ⟨"grx", none, "Guriaso"⟩,
  ⟨"gry", none, "Barclayville Grebo"⟩,
  ⟨"grz", none, "Guramalum"⟩,
  ⟨"gse", none, "Ghanaian Sign Language"⟩,
  ⟨"gsg", none, "German Sign Language"⟩,
  ⟨"gsl", none, "Gusilay"⟩,
  ⟨"gsm", none, "Guatemalan Sign Language"⟩,
  ⟨"gsn", none, "Nema"⟩,
  ⟨"gso", none, "Southwest Gbaya"⟩,
  ⟨"gsp", none, "Wasembo"⟩,
  ⟨"gss", none, "Greek Sign Language"⟩,
  ⟨"gsw", none, "Swiss German"⟩,
  ⟨"gta", none, "Guató"⟩,
  ⟨"gtu", none, "Aghu-Tharnggala"⟩,
  ⟨"gua", none, "Shiki"⟩,
  ⟨"gub", none, "Guajajára"⟩,
  ⟨"guc", none, "Wayuu"⟩,
  ⟨"gud", none, "Yocoboué Dida"⟩,
  ⟨"gue", none, "Gurindji"⟩,
  ⟨"guf", none, "Gupapuyngu"⟩,
  ⟨"gug", none, "Paraguayan Guaraní"⟩,
  ⟨"guh", none, "Guahibo"⟩,
  ⟨"gui", none, "Eastern Bolivian Guaraní"⟩,
  ⟨"guj", some "gu", "Gujarati"⟩,
  ⟨"guk", none, "Gumuz"⟩,
  ⟨"gul", none, "Sea Island Creole English"⟩,
  ⟨"gum", none, "Guambiano"⟩,
  ⟨"gun", none, "Mbyá Guaraní"⟩,
  ⟨"guo", none, "Guayabero"⟩,
  ⟨"gup", none, "Gunwinggu"⟩,
  ⟨"guq", none, "Aché"⟩,
  ⟨"gur", none, "Farefare"⟩,
  ⟨"gus", none, "Guinean Sign Language"⟩,
  ⟨"gut", none, "Maléku Jaíka"⟩,
  ⟨"guu", none, "Yanomamö"⟩,
  ⟨"guw", none, "Gun"⟩,
  ⟨"gux", none, "Gourmanchéma"⟩,
  ⟨"guz", none, "Gusii"⟩,
  ⟨"gva", none, "Guana"⟩,
  ⟨"gvc", none, "Guanano"⟩,
  ⟨"gve", none, "Duwet"⟩,
  ⟨"gvf", none, "Golin"⟩,
  ⟨"gvj", none, "Guajá"⟩,
  ⟨"gvl", none, "Gulay"⟩,
  ⟨"gvm", none, "Gurmana"⟩,
  ⟨"gvn", none, "Kuku-Yalanji"⟩,
  ⟨"gvo", none, "Gavião Do Jiparaná"⟩,
  ⟨"gvp", none, "Pará Gavião"⟩,
  ⟨"gvr", none, "Gurung"⟩,
  ⟨"gvs", none, "Gumawana"⟩,
  ⟨"gvy", none, "Guyani"⟩,
  ⟨"gwa", none, "Mbato"⟩,
  ⟨"gwb", none, "Gwa"⟩,
  ⟨"gwc", none, "Gawri"⟩,
  ⟨"gwd", none, "Gawwada"⟩,
  ⟨"gwe", none, "Gweno"⟩,
  ⟨"gwf", none, "Gowro"⟩,
  ⟨"gwg", none, "Moo"⟩,
  ⟨"gwi", none, "Gwichʼin"⟩,
  ⟨"gwj", none, "ǀGwi"⟩,
  ⟨"gwm", none, "Awngthim"⟩,
  ⟨"gwn", none, "Gwandara"⟩,
  ⟨"gwr", none, "Gwere"⟩,
  ⟨"gwt", none, "Gawar-Bati"⟩,
  ⟨"gwu", none, "Guwamu"⟩,
  ⟨"gww", none, "Kwini"⟩,
  ⟨"gwx", none, "Gua"⟩,
  ⟨"gxx", none, "Wè Southern"⟩,
  ⟨"gya", none, "Northwest Gbaya"⟩,
  ⟨"gyb", none, "Garus"⟩,
  ⟨"gyd", none, "Kayardild"⟩,
  ⟨"gye", none, "Gyem"⟩,
  ⟨"gyf", none, "Gungabula"⟩,
  ⟨"gyg", none, "Gbayi"⟩,
  ⟨"gyi", none, "Gyele"⟩,
  ⟨"gyl", none, "Gayil"⟩,
  ⟨"gym", none, "Ngäbere"⟩,
  ⟨"gyn", none, "Guyanese Creole English"⟩,
  ⟨"gyo", none, "Gyalsumdo"⟩,
  ⟨"gyr", none, "Guarayu"⟩,
  ⟨"gyy", none, "Gunya"⟩,
  ⟨"gza", none, "Ganza"⟩,
  ⟨"gzi", none, "Gazi"⟩,
  ⟨"gzn", none, "Gane"⟩]

/-- The languages whose three-letter code starts with `h`, in code order. -/
def entriesH : List Entry := [
  ⟨"haa", none, "Han"⟩,
  ⟨"hab", none, "Hanoi Sign Language"⟩,
  ⟨"hac", none, "Gurani"⟩,
  ⟨"had", none, "Hatam"⟩,
  ⟨"hae", none, "Eastern Oromo"⟩,
  ⟨"haf", none, "Haiphong Sign Language"⟩,
  ⟨"hag", none, "Hanga"⟩,
  ⟨"hah", none, "Hahon"⟩,
  ⟨"hai", none, "Haida"⟩,
  ⟨"haj", none, "Hajong"⟩,
  ⟨"hak", none, "Hakka Chinese"⟩,
  ⟨"hal", none, "Halang"⟩,
  ⟨"ham", none, "Hewa"⟩,
  ⟨"han", none, "Hangaza"⟩,
  ⟨"hao", none, "Hakö"⟩,
  ⟨"hap", none, "Hupla"⟩,
  ⟨"haq", none, "Ha"⟩,
  ⟨"har", none, "Harari"⟩,
  ⟨"has", none, "Haisla"⟩,
  ⟨"hat", some "ht", "Haitian"⟩,
  ⟨"hau", some "ha", "Hausa"⟩,
  ⟨"hav", none, "Havu"⟩,
  ⟨"haw", none, "Hawaiian"⟩,
  ⟨"hax", none, "Southern Haida"⟩,
  ⟨"hay", none, "Haya"⟩,
  ⟨"haz", none, "Hazaragi"⟩,
  ⟨"hba", none, "Hamba"⟩,
  ⟨"hbb", none, "Huba"⟩,
  ⟨"hbn", none, "Heiban"⟩,
  ⟨"hbo", none, "Ancient Hebrew"⟩,
  ⟨"hbs", some "sh", "Serbo-Croatian"⟩,
  ⟨"hbu", none, "Habu"⟩,
  ⟨"hca", none, "Andaman Creole Hindi"⟩,
  ⟨"hch", none, "Huichol"⟩,
  ⟨"hdn", none, "Northern Haida"⟩,
  ⟨"hds", none, "Honduras Sign Language"⟩,
  ⟨"hdy", none, "Hadiyya"⟩,
  ⟨"hea", none, "Northern Qiandong Miao"⟩,
  ⟨"heb", some "he", "Hebrew"⟩,
  ⟨"hed", none, "Herdé"⟩,
  ⟨"heg", none, "Helong"⟩,
  ⟨"heh", none, "Hehe"⟩,
  ⟨"hei", none, "Heiltsuk"⟩,
  ⟨"hem", none, "Hemba"⟩,
  ⟨"her", some "hz", "Herero"⟩,
  ⟨"hgm", none, "Haiǁom"⟩,
  ⟨"hgw", none, "Haigwai"⟩,
  ⟨"hhi", none, "Hoia Hoia"⟩,
  ⟨"hhr", none, "Kerak"⟩,
  ⟨"hhy", none, "Hoyahoya"⟩,
  ⟨"hia", none, "Lamang"⟩,
  ⟨"hib", none, "Hibito"⟩,
  ⟨"hid", none, "Hidatsa"⟩,
  ⟨"hif", none, "Fiji Hindi"⟩,
  ⟨"hig", none, "Kamwe"⟩,
  ⟨"hih", none, "Pamosu"⟩,
  ⟨"hii", none, "Hinduri"⟩,
  ⟨"hij", none, "Hijuk"⟩,
  ⟨"hik", none, "Seit-Kaitetu"⟩,
  ⟨"hil", none, "Hiligaynon"⟩,
  ⟨"hin", some "hi", "Hindi"⟩,
  ⟨"hio", none, "Tsoa"⟩,
  ⟨"hir", none, "Himarimã"⟩,
  ⟨"hit", none, "Hittite"⟩,
  ⟨"hiw", none, "Hiw"⟩,
  ⟨"hix", none, "Hixkaryána"⟩,
  ⟨"hji", none, "Haji"⟩,
  ⟨"hka", none, "Kahe"⟩,
  ⟨"hke", none, "Hunde"⟩,
  ⟨"hkh", none, "Khah"⟩,
  ⟨"hkk", none, "Hunjara-Kaina Ke"⟩,
  ⟨"hkn", none, "Mel-Khaonh"⟩,
  ⟨"hks", none, "Hong Kong Sign Language"⟩,
  ⟨"hla", none, "Halia"⟩,
  ⟨"hlb", none, "Halbi"⟩,
  ⟨"hld", none, "Halang Doan"⟩,
  ⟨"hle", none, "Hlersu"⟩,
  ⟨"hlt", none, "Matu Chin"⟩,
  ⟨"hlu", none, "Hieroglyphic Luwian"⟩,
  ⟨"hma", none, "Southern Mashan Hmong"⟩,
  ⟨"hmb", none, "Humburi Senni Songhay"⟩,
  ⟨"hmc", none, "Central Huishui Hmong"⟩,
  ⟨"hmd", none, "Large Flowery Miao"⟩,
  ⟨"hme", none, "Eastern Huishui Hmong"⟩,
  ⟨"hmf", none, "Hmong Don"⟩,
  ⟨"hmg", none, "Southwestern Guiyang Hmong"⟩,
  ⟨"hmh", none, "Southwestern Huishui Hmong"⟩,
  ⟨"hmi", none, "Northern Huishui Hmong"⟩,
  ⟨"hmj", none, "Ge"⟩,
  ⟨"hmk", none, "Maek"⟩,
  ⟨"hml", none, "Luopohe Hmong"⟩,
  ⟨"hmm", none, "Central Mashan Hmong"⟩,
  ⟨"hmn", none, "Hmong"⟩,
  ⟨"hmo", some "ho", "Hiri Motu"⟩,
  ⟨"hmp", none, "Northern Mashan Hmong"⟩,
  ⟨"hmq", none, "Eastern Qiandong Miao"⟩,
  ⟨"hmr", none, "Hmar"⟩,
  ⟨"hms", none, "Southern Qiandong Miao"⟩,
  ⟨"hmt", none, "Hamtai"⟩,
  ⟨"hmu", none, "Hamap"⟩,
  ⟨"hmv", none, "Hmong Dô"⟩,
  ⟨"hmw", none, "Western Mashan Hmong"⟩,
  ⟨"hmy", none, "Southern Guiyang Hmong"⟩,
  ⟨"hmz", none, "Hmong Shua"⟩,
  ⟨"hna", none, "Mina"⟩,
  ⟨"hnd", none, "Southern Hindko"⟩,
  ⟨"hne", none, "Chhattisgarhi"⟩,
  ⟨"hng", none, "Hungu"⟩,
  ⟨"hnh", none, "ǁAni"⟩,
  ⟨"hni", none, "Hani"⟩,
  ⟨"hnj", none, "Hmong Njua"⟩,
  ⟨"hnn", none, "Hanunoo"⟩,
  ⟨"hno", none, "Northern Hindko"⟩,
  ⟨"hns", none, "Caribbean Hindustani"⟩,
  ⟨"hnu", none, "Hung"⟩,
  ⟨"hoa", none, "Hoava"⟩,
  ⟨"hob", none, "Mari"⟩,
  ⟨"hoc", none, "Ho"⟩,
  ⟨"hod", none, "Holma"⟩,
  ⟨"hoe", none, "Horom"⟩,
  ⟨"hoh", none, "Hobyót"⟩,
  ⟨"hoi", none, "Holikachuk"⟩,
  ⟨"hoj", none, "Hadothi"⟩,
  ⟨"hol", none, "Holu"⟩,
  ⟨"hom", none, "Homa"⟩,
  ⟨"hoo", none, "Holoholo"⟩,
  ⟨"hop", none, "Hopi"⟩,
  ⟨"hor", none, "Horo"⟩,
  ⟨"hos", none, "Ho Chi Minh City Sign Language"⟩,
  ⟨"hot", none, "Hote"⟩,
  ⟨"hov", none, "Hovongan"⟩,
  ⟨"how", none, "Honi"⟩,
  ⟨"hoy", none, "Holiya"⟩,
  ⟨"hoz", none, "Hozo"⟩,
  ⟨"hpo", none, "Hpon"⟩,
  ⟨"hps", none, "Hawai'i Sign Language"⟩,
  ⟨"hra", none, "Hrangkhol"⟩,
  ⟨"hrc", none, "Niwer Mil"⟩,
  ⟨"hre", none, "Hre"⟩,
  ⟨"hrk", none, "Haruku"⟩,
  ⟨"hrm", none, "Horned Miao"⟩,
  ⟨"hro", none, "Haroi"⟩,
  ⟨"hrp", none, "Nhirrpi"⟩,
  ⟨"hrt", none, "Hértevin"⟩,
  ⟨"hru", none, "Hruso"⟩,
  ⟨"hrv", some "hr", "Croatian"⟩,
  ⟨"hrw", none, "Warwar Feni"⟩,
  ⟨"hrx", none, "Hunsrik"⟩,
  ⟨"hrz", none, "Harzani"⟩,
  ⟨"hsb", none, "Upper Sorbian"⟩,
  ⟨"hsh", none, "Hungarian Sign Language"⟩,
  ⟨"hsl", none, "Hausa Sign Language"⟩,
  ⟨"hsn", none, "Xiang Chinese"⟩,
  ⟨"hss", none, "Harsusi"⟩,
  ⟨"hti", none, "Hoti"⟩,
  ⟨"hto", none, "Minica Huitoto"⟩,
  ⟨"hts", none, "Hadza"⟩,
  ⟨"htu", none, "Hitu"⟩,
  ⟨"htx", none, "Middle Hittite"⟩,
  ⟨"hub", none, "Huambisa"⟩,
  ⟨"huc", none, "ǂHua"⟩,
  ⟨"hud", none, "Huaulu"⟩,
  ⟨"hue", none, "San Francisco Del Mar Huave"⟩,
  ⟨"huf", none, "Humene"⟩,
  ⟨"hug", none, "Huachipaeri"⟩,
  ⟨"huh", none, "Huilliche"⟩,
  ⟨"hui", none, "Huli"⟩,
  ⟨"huj", none, "Northern Guiyang Hmong"⟩,
  ⟨"huk", none, "Hulung"⟩,
  ⟨"hul", none, "Hula"⟩,
  ⟨"hum", none, "Hungana"⟩,
  ⟨"hun", some "hu", "Hungarian"⟩,
  ⟨"huo", none, "Hu"⟩,
  ⟨"hup", none, "Hupa"⟩,
  ⟨"huq", none, "Tsat"⟩,
  ⟨"hur", none, "Halkomelem"⟩,
  ⟨"hus", none, "Huastec"⟩,
  ⟨"hut", none, "Humla"⟩,
  ⟨"huu", none, "Murui Huitoto"⟩,
  ⟨"huv", none, "San Mateo Del Mar Huave"⟩,
  ⟨"huw", none, "Hukumina"⟩,
  ⟨"hux", none, "Nüpode Huitoto"⟩,
  ⟨"huy", none, "Hulaulá"⟩,
  ⟨"huz", none, "Hunzib"⟩,
  ⟨"hvc", none, "Haitian Vodoun Culture Language"⟩,
  ⟨"hve", none, "San Dionisio Del Mar Huave"⟩,
  ⟨"hvk", none, "Haveke"⟩,
  ⟨"hvn", none, "Sabu"⟩,
  ⟨"hvv", none, "Santa María Del Mar Huave"⟩,
  ⟨"hwa", none, "Wané"⟩,
  ⟨"hwc", none, "Hawai'i Creole English"⟩,
  ⟨"hwo", none, "Hwana"⟩,
  ⟨"hya", none, "Hya"⟩,
  ⟨"hye", some "hy", "Armenian"⟩,
  ⟨"hyw", none, "Western Armenian"⟩]

/-- The languages whose three-letter code starts with `i`, in code order. -/
def entriesI : List Entry := [
  ⟨"iai", none, "Iaai"⟩,
  ⟨"ian", none, "Iatmul"⟩,
  ⟨"iar", none, "Purari"⟩,
  ⟨"iba", none, "Iban"⟩,
  ⟨"ibb", none, "Ibibio"⟩,
  ⟨"ibd", none, "Iwaidja"⟩,
  ⟨"ibe", none, "Akpes"⟩,
  ⟨"ibg", none, "Ibanag"⟩,
  ⟨"ibh", none, "Bih"⟩,
  ⟨"ibl", none, "Ibaloi"⟩,
  ⟨"ibm", none, "Agoi"⟩,
  ⟨"ibn", none, "Ibino"⟩,
  ⟨"ibo", some "ig", "Igbo"⟩,
  ⟨"ibr", none, "Ibuoro"⟩,
  ⟨"ibu", none, "Ibu"⟩,
  ⟨"iby", none, "Ibani"⟩,
  ⟨"ica", none, "Ede Ica"⟩,
  ⟨"ich", none, "Etkywan"⟩,
  ⟨"icl", none, "Icelandic Sign Language"⟩,
  ⟨"icr", none, "Islander Creole English"⟩,
  ⟨"ida", none, "Idakho-Isukha-Tiriki"⟩,
  ⟨"idb", none, "Indo-Portuguese"⟩,
  ⟨"idc", none, "Idon"⟩,
  ⟨"idd", none, "Ede Idaca"⟩,
  ⟨"ide", none, "Idere"⟩,
  ⟨"idi", none, "Idi"⟩,
  ⟨"ido", some "io", "Ido"⟩,
  ⟨"idr", none, "Indri"⟩,
  ⟨"ids", none, "Idesa"⟩,
  ⟨"idt", none, "Idaté"⟩,
  ⟨"idu", none, "Idoma"⟩,
  ⟨"ifa", none, "Amganad Ifugao"⟩,
  ⟨"ifb", none, "Batad Ifugao"⟩,
  ⟨"ife", none, "Ifè"⟩,
  ⟨"iff", none, "Ifo"⟩,
  ⟨"ifk", none, "Tuwali Ifugao"⟩,
  ⟨"ifm", none, "Teke-Fuumu"⟩,
  ⟨"ifu", none, "Mayoyao Ifugao"⟩,
  ⟨"ify", none, "Keley-I Kallahan"⟩,
  ⟨"igb", none, "Ebira"⟩,
  ⟨"ige", none, "Igede"⟩,
  ⟨"igg", none, "Igana"⟩,
  ⟨"igl", none, "Igala"⟩,
  ⟨"igm", none, "Kanggape"⟩,
  ⟨"ign", none, "Ignaciano"⟩,
  ⟨"igo", none, "Isebe"⟩,
  ⟨"igs", none, "Interglossa"⟩,
  ⟨"igw", none, "Igwe"⟩,
  ⟨"ihb", none, "Iha Based Pidgin"⟩,
  ⟨"ihi", none, "Ihievbe"⟩,
  ⟨"ihp", none, "Iha"⟩,
  ⟨"ihw", none, "Bidhawal"⟩,
  ⟨"iii", some "ii", "Sichuan Yi"⟩,
  ⟨"iin", none, "Thiin"⟩,
  ⟨"ijc", none, "Izon"⟩,
  ⟨"ije", none, "Biseni"⟩,
  ⟨"ijj", none, "Ede Ije"⟩,
  ⟨"ijn", none, "Kalabari"⟩,
  ⟨"ijs", none, "Southeast Ijo"⟩,
  ⟨"ike", none, "Eastern Canadian Inuktitut"⟩,
  ⟨"iki", none, "Iko"⟩,
  ⟨"ikk", none, "Ika"⟩,
  ⟨"ikl", none, "Ikulu"⟩,
  ⟨"iko", none, "Olulumo-Ikom"⟩,
  ⟨"ikp", none, "Ikpeshi"⟩,
  ⟨"ikr", none, "Ikaranggal"⟩,
  ⟨"iks", none, "Inuit Sign Language"⟩,
  ⟨"ikt", none, "Inuinnaqtun"⟩,
  ⟨"iku", some "iu", "Inuktitut"⟩,
  ⟨"ikv", none, "Iku-Gora-Ankwa"⟩,
  ⟨"ikw", none, "Ikwere"⟩,
  ⟨"ikx", none, "Ik"⟩,
  ⟨"ikz", none, "Ikizu"⟩,
  ⟨"ila", none, "Ile Ape"⟩,
  ⟨"ilb", none, "Ila"⟩,
  ⟨"ile", some "ie", "Interlingue"⟩,
  ⟨"ilg", none, "Garig-Ilgar"⟩,
  ⟨"ili", none, "Ili Turki"⟩,
  ⟨"ilk", none, "Ilongot"⟩,
  ⟨"ilm", none, "Iranun"⟩,
  ⟨"ilo", none, "Iloko"⟩,
  ⟨"ilp", none, "Iranun"⟩,
  ⟨"ils", none, "International Sign"⟩,
  ⟨"ilu", none, "Ili'uun"⟩,
  ⟨"ilv", none, "Ilue"⟩,
  ⟨"ima", none, "Mala Malasar"⟩,
  ⟨"imi", none, "Anamgura"⟩,
  ⟨"iml", none, "Miluk"⟩,
  ⟨"imn", none, "Imonda"⟩,
  ⟨"imo", none, "Imbongu"⟩,
  ⟨"imr", none, "Imroing"⟩,
  ⟨"ims", none, "Marsian"⟩,
  ⟨"imt", none, "Imotong"⟩,
  ⟨"imy", none, "Milyan"⟩,
  ⟨"ina", some "ia", "Interlingua"⟩,
  ⟨"inb", none, "Inga"⟩,
  ⟨"ind", some "id", "Indonesian"⟩,
  ⟨"ing", none, "Degexit'an"⟩,
  ⟨"inh", none, "Ingush"⟩,
  ⟨"inj", none, "Jungle Inga"⟩,
  ⟨"inl", none, "Indonesian Sign Language"⟩,
  ⟨"inm", none, "Minaean"⟩,
  ⟨"inn", none, "Isinai"⟩,
  ⟨"ino", none, "Inoke-Yate"⟩,
  ⟨"inp", none, "Iñapari"⟩,
  ⟨"ins", none, "Indian Sign Language"⟩,
  ⟨"int", none, "Intha"⟩,
  ⟨"inz", none, "Ineseño"⟩,
  ⟨"ior", none, "Inor"⟩,
  ⟨"iou", none, "Tuma-Irumu"⟩,
  ⟨"iow", none, "Iowa-Oto"⟩,
  ⟨"ipi", none, "Ipili"⟩,
  ⟨"ipk", some "ik", "Inupiaq"⟩,
  ⟨"ipo", none, "Ipiko"⟩,
  ⟨"iqu", none, "Iquito"⟩,
  ⟨"iqw", none, "Ikwo"⟩,
  ⟨"ire", none, "Iresim"⟩,
  ⟨"irh", none, "Irarutu"⟩,
  ⟨"iri", none, "Rigwe"⟩,
  ⟨"irk", none, "Iraqw"⟩,
  ⟨"irn", none, "Irántxe"⟩,
  ⟨"irr", none, "Ir"⟩,
  ⟨"iru", none, "Irula"⟩,
  ⟨"irx", none, "Kamberau"⟩,
  ⟨"iry", none, "Iraya"⟩,
  ⟨"isa", none, "Isabi"⟩,
  ⟨"isc", none, "Isconahua"⟩,
  ⟨"isd", none, "Isnag"⟩,
  ⟨"ise", none, "Italian Sign Language"⟩,
  ⟨"isg", none, "Irish Sign Language"⟩,
  ⟨"ish", none, "Esan"⟩,
  ⟨"isi", none, "Nkem-Nkum"⟩,
  ⟨"isk", none, "Ishkashimi"⟩,
  ⟨"isl", some "is", "Icelandic"⟩,
  ⟨"ism", none, "Masimasi"⟩,
  ⟨"isn", none, "Isanzu"⟩,
  ⟨"iso", none, "Isoko"⟩,
  ⟨"isr", none, "Israeli Sign Language"⟩,
  ⟨"ist", none, "Istriot"⟩,
  ⟨"isu", none, "Isu"⟩,
  ⟨"ita", some "it", "Italian"⟩,
  ⟨"itb", none, "Binongan Itneg"⟩,
  ⟨"itd", none, "Southern Tidung"⟩,
  ⟨"ite", none, "Itene"⟩,
  ⟨"iti", none, "Inlaod Itneg"⟩,
  ⟨"itk", none, "Judeo-Italian"⟩,
  ⟨"itl", none, "Itelmen"⟩,
  ⟨"itm", none, "Itu Mbon Uzo"⟩,
  ⟨"ito", none, "Itonama"⟩,
  ⟨"itr", none, "Iteri"⟩,
  ⟨"its", none, "Isekiri"⟩,
  ⟨"itt", none, "Maeng Itneg"⟩,
  ⟨"itv", none, "Itawit"⟩,
  ⟨"itw", none, "Ito"⟩,
  ⟨"itx", none, "Itik"⟩,
  ⟨"ity", none, "Moyadan Itneg"⟩,
  ⟨"itz", none, "Itzá"⟩,
  ⟨"ium", none, "Iu Mien"⟩,
  ⟨"ivb", none, "Ibatan"⟩,
  ⟨"ivv", none, "Ivatan"⟩,
  ⟨"iwk", none, "I-Wak"⟩,
  ⟨"iwm", none, "Iwam"⟩,
  ⟨"iwo", none, "Iwur"⟩,
  ⟨"iws", none, "Sepik Iwam"⟩,
  ⟨"ixc", none, "Ixcatec"⟩,
  ⟨"ixl", none, "Ixil"⟩,
  ⟨"iya", none, "Iyayu"⟩,
  ⟨"iyo", none, "Mesaka"⟩,
  ⟨"iyx", none, "Yaka"⟩,
  ⟨"izh", none, "Ingrian"⟩,
  ⟨"izr", none, "Izere"⟩,
  ⟨"izz", none, "Izii"⟩]

/-- The languages whose three-letter code starts with `j`, in code order. -/
def entriesJ : List Entry := [
  ⟨"jaa", none, "Jamamadí"⟩,
  ⟨"jab", none, "Hyam"⟩,
  ⟨"jac", none, "Popti'"⟩,
  ⟨"jad", none, "Jahanka"⟩,
  ⟨"jae", none, "Yabem"⟩,
  ⟨"jaf", none, "Jara"⟩,
  ⟨"jah", none, "Jah Hut"⟩,
  ⟨"jaj", none, "Zazao"⟩,
  ⟨"jak", none, "Jakun"⟩,
  ⟨"jal", none, "Yalahatan"⟩,
  ⟨"jam", none, "Jamaican Creole English"⟩,
  ⟨"jan", none, "Jandai"⟩,
  ⟨"jao", none, "Yanyuwa"⟩,
  ⟨"jaq", none, "Yaqay"⟩,
  ⟨"jas", none, "New Caledonian Javanese"⟩,
  ⟨"jat", none, "Jakati"⟩,
  ⟨"jau", none, "Yaur"⟩,
  ⟨"jav", some "jv", "Javanese"⟩,
  ⟨"jax", none, "Jambi Malay"⟩,
  ⟨"jay", none, "Yan-nhangu"⟩,
  ⟨"jaz", none, "Jawe"⟩,
  ⟨"jbe", none, "Judeo-Berber"⟩,
  ⟨"jbi", none, "Badjiri"⟩,
  ⟨"jbj", none, "Arandai"⟩,
  ⟨"jbk", none, "Barikewa"⟩,
  ⟨"jbn", none, "Nafusi"⟩,
  ⟨"jbo", none, "Lojban"⟩,
  ⟨"jbr", none, "Jofotek-Bromnya"⟩,
  ⟨"jbt", none, "Jabutí"⟩,
  ⟨"jbu", none, "Jukun Takum"⟩,
  ⟨"jbw", none, "Yawijibaya"⟩,
  ⟨"jcs", none, "Jamaican Country Sign Language"⟩,
  ⟨"jct", none, "Krymchak"⟩,
  ⟨"jda", none, "Jad"⟩,
  ⟨"jdg", none, "Jadgali"⟩,
  ⟨"jdt", none, "Judeo-Tat"⟩,
  ⟨"jeb", none, "Jebero"⟩,
  ⟨"jee", none, "Jerung"⟩,
  ⟨"jeh", none, "Jeh"⟩,
  ⟨"jei", none, "Yei"⟩,
  ⟨"jek", none, "Jeri Kuo"⟩,
  ⟨"jel", none, "Yelmek"⟩,
  ⟨"jen", none, "Dza"⟩,
  ⟨"jer", none, "Jere"⟩,
  ⟨"jet", none, "Manem"⟩,
  ⟨"jeu", none, "Jonkor Bourmataguil"⟩,
  ⟨"jgb", none, "Ngbee"⟩,
  ⟨"jge", none, "Judeo-Georgian"⟩,
  ⟨"jgk", none, "Gwak"⟩,
  ⟨"jgo", none, "Ngomba"⟩,
  ⟨"jhi", none, "Jehai"⟩,
  ⟨"jhs", none, "Jhankot Sign Language"⟩,
  ⟨"jia", none, "Jina"⟩,
  ⟨"jib", none, "Jibu"⟩,
  ⟨"jic", none, "Tol"⟩,
  ⟨"jid", none, "Bu"⟩,
  ⟨"jie", none, "Jilbe"⟩,
  ⟨"jig", none, "Jingulu"⟩,
  ⟨"jih", none, "sTodsde"⟩,
  ⟨"jii", none, "Jiiddu"⟩,
  ⟨"jil", none, "Jilim"⟩,
  ⟨"jim", none, "Jimi"⟩,
  ⟨"jio", none, "Jiamao"⟩,
  ⟨"jiq", none, "Guanyinqiao"⟩,
  ⟨"jit", none, "Jita"⟩,
  ⟨"jiu", none, "Youle Jinuo"⟩,
  ⟨"jiv", none, "Shuar"⟩,
  ⟨"jiy", none, "Buyuan Jinuo"⟩,
  ⟨"jjr", none, "Bankal"⟩,
  ⟨"jkm", none, "Mobwa Karen"⟩,
  ⟨"jko", none, "Kubo"⟩,
  ⟨"jkp", none, "Paku Karen"⟩,
  ⟨"jkr", none, "Koro"⟩,
  ⟨"jku", none, "Labir"⟩,
  ⟨"jle", none, "Ngile"⟩,
  ⟨"jls", none, "Jamaican Sign Language"⟩,
  ⟨"jma", none, "Dima"⟩,
  ⟨"jmb", none, "Zumbun"⟩,
  ⟨"jmc", none, "Machame"⟩,
  ⟨"jmd", none, "Yamdena"⟩,
  ⟨"jmi", none, "Jimi"⟩,
  ⟨"jml", none, "Jumli"⟩,
  ⟨"jmn", none, "Makuri Naga"⟩,
  ⟨"jmr", none, "Kamara"⟩,
  ⟨"jms", none, "Mashi"⟩,
  ⟨"jmw", none, "Mouwase"⟩,
  ⟨"jmx", none, "Western Juxtlahuaca Mixtec"⟩,
  ⟨"jna", none, "Jangshung"⟩,
  ⟨"jnd", none, "Jandavra"⟩,
  ⟨"jng", none, "Yangman"⟩,
  ⟨"jni", none, "Janji"⟩,
  ⟨"jnj", none, "Yemsa"⟩,
  ⟨"jnl", none, "Rawat"⟩,
  ⟨"jns", none, "Jaunsari"⟩,
  ⟨"job", none, "Joba"⟩,
  ⟨"jod", none, "Wojenaka"⟩,
  ⟨"jog", none, "Jogi"⟩,
  ⟨"jor", none, "Jorá"⟩,
  ⟨"jos", none, "Jordanian Sign Language"⟩,
  ⟨"jow", none, "Jowulu"⟩,
  ⟨"jpa", none, "Jewish Palestinian Aramaic"⟩,
  ⟨"jpn", some "ja", "Japanese"⟩,
  ⟨"jpr", none, "Judeo-Persian"⟩,
  ⟨"jqr", none, "Jaqaru"⟩,
  ⟨"jra", none, "Jarai"⟩,
  ⟨"jrb", none, "Judeo-Arabic"⟩,
  ⟨"jrr", none, "Jiru"⟩,
  ⟨"jrt", none, "Jakattoe"⟩,
  ⟨"jru", none, "Japrería"⟩,
  ⟨"jsl", none, "Japanese Sign Language"⟩,
  ⟨"jua", none, "Júma"⟩,
  ⟨"jub", none, "Wannu"⟩,
  ⟨"juc", none, "Jurchen"⟩,
  ⟨"jud", none, "Worodougou"⟩,
  ⟨"juh", none, "Hõne"⟩,
  ⟨"jui", none, "Ngadjuri"⟩,
  ⟨"juk", none, "Wapan"⟩,
  ⟨"jul", none, "Jirel"⟩,
  ⟨"jum", none, "Jumjum"⟩,
  ⟨"jun", none, "Juang"⟩,
  ⟨"juo", none, "Jiba"⟩,
  ⟨"jup", none, "Hupdë"⟩,
  ⟨"jur", none, "Jurúna"⟩,
  ⟨"jus", none, "Jumla Sign Language"⟩,
  ⟨"jut", none, "Jutish"⟩,
  ⟨"juu", none, "Ju"⟩,
  ⟨"juw", none, "Wãpha"⟩,
  ⟨"juy", none, "Juray"⟩,
  ⟨"jvd", none, "Javindo"⟩,
  ⟨"jvn", none, "Caribbean Javanese"⟩,
  ⟨"jwi", none, "Jwira-Pepesa"⟩,
  ⟨"jya", none, "Jiarong"⟩,
  ⟨"jye", none, "Judeo-Yemeni Arabic"⟩,
  ⟨"jyy", none, "Jaya"⟩]

/-- The languages whose three-letter code starts with `k`, in code order. -/
def entriesK : List Entry := [
  ⟨"kaa", none, "Kara-Kalpak"⟩,
  ⟨"kab", none, "Kabyle"⟩,
  ⟨"kac", none, "Kachin"⟩,
  ⟨"kad", none, "Adara"⟩,
  ⟨"kae", none, "Ketangalan"⟩,
  ⟨"kaf", none, "Katso"⟩,
  ⟨"kag", none, "Kajaman"⟩,
  ⟨"kah", none, "Kara"⟩,
  ⟨"kai", none, "Karekare"⟩,
  ⟨"kaj", none, "Jju"⟩,
  ⟨"kak", none, "Kalanguya"⟩,
  ⟨"kal", some "kl", "Kalaallisut"⟩,
  ⟨"kam", none, "Kamba"⟩,
  ⟨"kan", some "kn", "Kannada"⟩,
  ⟨"kao", none, "Xaasongaxango"⟩,
  ⟨"kap", none, "Bezhta"⟩,
  ⟨"kaq", none, "Capanahua"⟩,
  ⟨"kas", some "ks", "Kashmiri"⟩,
  ⟨"kat", some "ka", "Georgian"⟩,
  ⟨"kau", some "kr", "Kanuri"⟩,
  ⟨"kav", none, "Katukína"⟩,
  ⟨"kaw", none, "Kawi"⟩,
  ⟨"kax", none, "Kao"⟩,
  ⟨"kay", none, "Kamayurá"⟩,
  ⟨"kaz", some "kk", "Kazakh"⟩,
  ⟨"kba", none, "Kalarko"⟩,
  ⟨"kbb", none, "Kaxuiâna"⟩,
  ⟨"kbc", none, "Kadiwéu"⟩,
  ⟨"kbd", none, "Kabardian"⟩,
  ⟨"kbe", none, "Kanju"⟩,
  ⟨"kbg", none, "Khamba"⟩,
  ⟨"kbh", none, "Camsá"⟩,
  ⟨"kbi", none, "Kaptiau"⟩,
  ⟨"kbj", none, "Kari"⟩,
  ⟨"kbk", none, "Grass Koiari"⟩,
  ⟨"kbl", none, "Kanembu"⟩,
  ⟨"kbm", none, "Iwal"⟩,
  ⟨"kbn", none, "Kare"⟩,
  ⟨"kbo", none, "Keliko"⟩,
  ⟨"kbp", none, "Kabiyè"⟩,
  ⟨"kbq", none, "Kamano"⟩,
  ⟨"kbr", none, "Kafa"⟩,
  ⟨"kbs", none, "Kande"⟩,
  ⟨"kbt", none, "Abadi"⟩,
  ⟨"kbu", none, "Kabutra"⟩,
  ⟨"kbv", none, "Dera"⟩,
  ⟨"kbw", none, "Kaiep"⟩,
  ⟨"kbx", none, "Ap Ma"⟩,
  ⟨"kby", none, "Manga Kanuri"⟩,
  ⟨"kbz", none, "Duhwa"⟩,
  ⟨"kca", none, "Khanty"⟩,
  ⟨"kcb", none, "Kawacha"⟩,
  ⟨"kcc", none, "Lubila"⟩,
  ⟨"kcd", none, "Ngkâlmpw Kanum"⟩,
  ⟨"kce", none, "Kaivi"⟩,
  ⟨"kcf", none, "Ukaan"⟩,
  ⟨"kcg", none, "Tyap"⟩,
  ⟨"kch", none, "Vono"⟩,
  ⟨"kci", none, "Kamantan"⟩,
  ⟨"kcj", none, "Kobiana"⟩,
  ⟨"kck", none, "Kalanga"⟩,
  ⟨"kcl", none, "Kela"⟩,
  ⟨"kcm", none, "Gula"⟩,
  ⟨"kcn", none, "Nubi"⟩,
  ⟨"kco", none, "Kinalakna"⟩,
  ⟨"kcp", none, "Kanga"⟩,
  ⟨"kcq", none, "Kamo"⟩,
  ⟨"kcr", none, "Katla"⟩,
  ⟨"kcs", none, "Koenoem"⟩,
  ⟨"kct", none, "Kaian"⟩,
  ⟨"kcu", none, "Kami"⟩,
  ⟨"kcv", none, "Kete"⟩,
  ⟨"kcw", none, "Kabwari"⟩,
  ⟨"kcx", none, "Kachama-Ganjule"⟩,
  ⟨"kcy", none, "Korandje"⟩,
  ⟨"kcz", none, "Konongo"⟩,
  ⟨"kda", none, "Worimi"⟩,
  ⟨"kdc", none, "Kutu"⟩,
  ⟨"kdd", none, "Yankunytjatjara"⟩,
  ⟨"kde", none, "Makonde"⟩,
  ⟨"kdf", none, "Mamusi"⟩,
  ⟨"kdg", none, "Seba"⟩,
  ⟨"kdh", none, "Tem"⟩,
  ⟨"kdi", none, "Kumam"⟩,
  ⟨"kdj", none, "Karamojong"⟩,
  ⟨"kdk", none, "Numèè"⟩,
  ⟨"kdl", none, "Tsikimba"⟩,
  ⟨"kdm", none, "Kagoma"⟩,
  ⟨"kdn", none, "Kunda"⟩,
  ⟨"kdp", none, "Kaningdon-Nindem"⟩,
  ⟨"kdq", none, "Koch"⟩,
  ⟨"kdr", none, "Karaim"⟩,
  ⟨"kdt", none, "Kuy"⟩,
  ⟨"kdu", none, "Kadaru"⟩,
  ⟨"kdw", none, "Koneraw"⟩,
  ⟨"kdx", none, "Kam"⟩,
  ⟨"kdy", none, "Keder"⟩,
  ⟨"kdz", none, "Kwaja"⟩,
  ⟨"kea", none, "Kabuverdianu"⟩,
  ⟨"keb", none, "Kélé"⟩,
  ⟨"kec", none, "Keiga"⟩,
  ⟨"ked", none, "Kerewe"⟩,
  ⟨"kee", none, "Eastern Keres"⟩,
  ⟨"kef", none, "Kpessi"⟩,
  ⟨"keg", none, "Tese"⟩,
  ⟨"keh", none, "Keak"⟩,
  ⟨"kei", none, "Kei"⟩,
  ⟨"kej", none, "Kadar"⟩,
  ⟨"kek", none, "Kekchí"⟩,
  ⟨"kel", none, "Kela"⟩,
  ⟨"kem", none, "Kemak"⟩,
  ⟨"ken", none, "Kenyang"⟩,
  ⟨"keo", none, "Kakwa"⟩,
  ⟨"kep", none, "Kaikadi"⟩,
  ⟨"keq", none, "Kamar"⟩,
  ⟨"ker", none, "Kera"⟩,
  ⟨"kes", none, "Kugbo"⟩,
  ⟨"ket", none, "Ket"⟩,
  ⟨"keu", none, "Akebu"⟩,
  ⟨"kev", none, "Kanikkaran"⟩,
  ⟨"kew", none, "West Kewa"⟩,
  ⟨"kex", none, "Kukna"⟩,
  ⟨"key", none, "Kupia"⟩,
  ⟨"kez", none, "Kukele"⟩,
  ⟨"kfa", none, "Kodava"⟩,
  ⟨"kfb", none, "Northwestern Kolami"⟩,
  ⟨"kfc", none, "Konda-Dora"⟩,
  ⟨"kfd", none, "Korra Koraga"⟩,
  ⟨"kfe", none, "Kota"⟩,
  ⟨"kff", none, "Koya"⟩,
  ⟨"kfg", none, "Kudiya"⟩,
  ⟨"kfh", none, "Kurichiya"⟩,
  ⟨"kfi", none, "Kannada Kurumba"⟩,
  ⟨"kfj", none, "Kemiehua"⟩,
  ⟨"kfk", none, "Kinnauri"⟩,
  ⟨"kfl", none, "Kung"⟩,
  ⟨"kfm", none, "Khunsari"⟩,
  ⟨"kfn", none, "Kuk"⟩,
  ⟨"kfo", none, "Koro"⟩,
  ⟨"kfp", none, "Korwa"⟩,
  ⟨"kfq", none, "Korku"⟩,
  ⟨"kfr", none, "Kachhi"⟩,
  ⟨"kfs", none, "Bilaspuri"⟩,
  ⟨"kft", none, "Kanjari"⟩,
  ⟨"kfu", none, "Katkari"⟩,
  ⟨"kfv", none, "Kurmukar"⟩,
  ⟨"kfw", none, "Kharam Naga"⟩,
  ⟨"kfx", none, "Kullu Pahari"⟩,
  ⟨"kfy", none, "Kumaoni"⟩,
  ⟨"kfz", none, "Koromfé"⟩,
  ⟨"kga", none, "Koyaga"⟩,
  ⟨"kgb", none, "Kawe"⟩,
  ⟨"kge", none, "Komering"⟩,
  ⟨"kgf", none, "Kube"⟩,
  ⟨"kgg", none, "Kusunda"⟩,
  ⟨"kgi", none, "Selangor Sign Language"⟩,
  ⟨"kgj", none, "Gamale Kham"⟩,
  ⟨"kgk", none, "Kaiwá"⟩,
  ⟨"kgl", none, "Kunggari"⟩,
  ⟨"kgm", none, "Karipúna"⟩,
  ⟨"kgn", none, "Karingani"⟩,
  ⟨"kgo", none, "Krongo"⟩,
  ⟨"kgp", none, "Kaingang"⟩,
  ⟨"kgq", none, "Kamoro"⟩,
  ⟨"kgr", none, "Abun"⟩,
  ⟨"kgs", none, "Kumbainggar"⟩,
  ⟨"kgt", none, "Somyev"⟩,
  ⟨"kgu", none, "Kobol"⟩,
  ⟨"kgv", none, "Karas"⟩,
  ⟨"kgw", none, "Karon Dori"⟩,
  ⟨"kgx", none, "Kamaru"⟩,
  ⟨"kgy", none, "Kyerung"⟩,
  ⟨"kha", none, "Khasi"⟩,
  ⟨"khb", none, "Lü"⟩,
  ⟨"khc", none, "Tukang Besi North"⟩,
  ⟨"khd", none, "Bädi Kanum"⟩,
  ⟨"khe", none, "Korowai"⟩,
  ⟨"khf", none, "Khuen"⟩,
  ⟨"khg", none, "Khams Tibetan"⟩,
  ⟨"khh", none, "Kehu"⟩,
  ⟨"khj", none, "Kuturmi"⟩,
  ⟨"khk", none, "Halh Mongolian"⟩,
  ⟨"khl", none, "Lusi"⟩,
  ⟨"khm", some "km", "Khmer"⟩,
  ⟨"khn", none, "Khandesi"⟩,
  ⟨"kho", none, "Khotanese"⟩,
  ⟨"khp", none, "Kapori"⟩,
  ⟨"khq", none, "Koyra Chiini Songhay"⟩,
  ⟨"khr", none, "Kharia"⟩,
  ⟨"khs", none, "Kasua"⟩,
  ⟨"kht", none, "Khamti"⟩,
  ⟨"khu", none, "Nkhumbi"⟩,
  ⟨"khv", none, "Khvarshi"⟩,
  ⟨"khw", none, "Khowar"⟩,
  ⟨"khx", none, "Kanu"⟩,
  ⟨"khy", none, "Kele"⟩,
  ⟨"khz", none, "Keapara"⟩,
  ⟨"kia", none, "Kim"⟩,
  ⟨"kib", none, "Koalib"⟩,
  ⟨"kic", none, "Kickapoo"⟩,
  ⟨"kid", none, "Koshin"⟩,
  ⟨"kie", none, "Kibet"⟩,
  ⟨"kif", none, "Eastern Parbate Kham"⟩,
  ⟨"kig", none, "Kimaama"⟩,
  ⟨"kih", none, "Kilmeri"⟩,
  ⟨"kii", none, "Kitsai"⟩,
  ⟨"kij", none, "Kilivila"⟩,
  ⟨"kik", some "ki", "Kikuyu"⟩,
  ⟨"kil", none, "Kariya"⟩,
  ⟨"kim", none, "Karagas"⟩,
  ⟨"kin", some "rw", "Kinyarwanda"⟩,
  ⟨"kio", none, "Kiowa"⟩,
  ⟨"kip", none, "Sheshi Kham"⟩,
  ⟨"kiq", none, "Kosadle"⟩,
  ⟨"kir", some "ky", "Kirghiz"⟩,
  ⟨"kis", none, "Kis"⟩,
  ⟨"kit", none, "Agob"⟩,
  ⟨"kiu", none, "Kirmanjki"⟩,
  ⟨"kiv", none, "Kimbu"⟩,
  ⟨"kiw", none, "Northeast Kiwai"⟩,
  ⟨"kix", none, "Khiamniungan Naga"⟩,
  ⟨"kiy", none, "Kirikiri"⟩,
  ⟨"kiz", none, "Kisi"⟩,
  ⟨"kja", none, "Mlap"⟩,
  ⟨"kjb", none, "Q'anjob'al"⟩,
  ⟨"kjc", none, "Coastal Konjo"⟩,
  ⟨"kjd", none, "Southern Kiwai"⟩,
  ⟨"kje", none, "Kisar"⟩,
  ⟨"kjg", none, "Khmu"⟩,
  ⟨"kjh", none, "Khakas"⟩,
  ⟨"kji", none, "Zabana"⟩,
  ⟨"kjj", none, "Khinalugh"⟩,
  ⟨"kjk", none, "Highland Konjo"⟩,
  ⟨"kjl", none, "Western Parbate Kham"⟩,
  ⟨"kjm", none, "Kháng"⟩,
  ⟨"kjn", none, "Kunjen"⟩,
  ⟨"kjo", none, "Harijan Kinnauri"⟩,
  ⟨"kjp", none, "Pwo Eastern Karen"⟩,
  ⟨"kjq", none, "Western Keres"⟩,
  ⟨"kjr", none, "Kurudu"⟩,
  ⟨"kjs", none, "East Kewa"⟩,
  ⟨"kjt", none, "Phrae Pwo Karen"⟩,
  ⟨"kju", none, "Kashaya"⟩,
  ⟨"kjv", none, "Kaikavian Literary Language"⟩,
  ⟨"kjx", none, "Ramopa"⟩,
  ⟨"kjy", none, "Erave"⟩,
  ⟨"kjz", none, "Bumthangkha"⟩,
  ⟨"kka", none, "Kakanda"⟩,
  ⟨"kkb", none, "Kwerisa"⟩,
  ⟨"kkc", none, "Odoodee"⟩,
  ⟨"kkd", none, "Kinuku"⟩,
  ⟨"kke", none, "Kakabe"⟩,
  ⟨"kkf", none, "Kalaktang Monpa"⟩,
  ⟨"kkg", none, "Mabaka Valley Kalinga"⟩,
  ⟨"kkh", none, "Khün"⟩,
  ⟨"kki", none, "Kagulu"⟩,
  ⟨"kkj", none, "Kako"⟩,
  ⟨"kkk", none, "Kokota"⟩,
  ⟨"kkl", none, "Kosarek Yale"⟩,
  ⟨"kkm", none, "Kiong"⟩,
  ⟨"kkn", none, "Kon Keu"⟩,
  ⟨"kko", none, "Karko"⟩,
  ⟨"kkp", none, "Gugubera"⟩,
  ⟨"kkq", none, "Kaeku"⟩,
  ⟨"kkr", none, "Kir-Balar"⟩,
  ⟨"kks", none, "Giiwo"⟩,
  ⟨"kkt", none, "Koi"⟩,
  ⟨"kku", none, "Tumi"⟩,
  ⟨"kkv", none, "Kangean"⟩,
  ⟨"kkw", none, "Teke-Kukuya"⟩,
  ⟨"kkx", none, "Kohin"⟩,
  ⟨"kky", none, "Guugu Yimidhirr"⟩,
  ⟨"kkz", none, "Kaska"⟩,
  ⟨"kla", none, "Klamath-Modoc"⟩,
  ⟨"klb", none, "Kiliwa"⟩,
  ⟨"klc", none, "Kolbila"⟩,
  ⟨"kld", none, "Gamilaraay"⟩,
  ⟨"kle", none, "Kulung"⟩,
  ⟨"klf", none, "Kendeje"⟩,
  ⟨"klg", none, "Tagakaulo"⟩,
  ⟨"klh", none, "Weliki"⟩,
  ⟨"kli", none, "Kalumpang"⟩,
  ⟨"klj", none, "Khalaj"⟩,
  ⟨"klk", none, "Kono"⟩,
  ⟨"kll", none, "Kagan Kalagan"⟩,
  ⟨"klm", none, "Migum"⟩,
  ⟨"kln", none, "Kalenjin"⟩,
  ⟨"klo", none, "Kapya"⟩,
  ⟨"klp", none, "Kamasa"⟩,
  ⟨"klq", none, "Rumu"⟩,
  ⟨"klr", none, "Khaling"⟩,
  ⟨"kls", none, "Kalasha"⟩,
  ⟨"klt", none, "Nukna"⟩,
  ⟨"klu", none, "Klao"⟩,
  ⟨"klv", none, "Maskelynes"⟩,
  ⟨"klw", none, "Tado"⟩,
  ⟨"klx", none, "Koluwawa"⟩,
  ⟨"kly", none, "Kalao"⟩,
  ⟨"klz", none, "Kabola"⟩,
  ⟨"kma", none, "Konni"⟩,
  ⟨"kmb", none, "Kimbundu"⟩,
  ⟨"kmc", none, "Southern Dong"⟩,
  ⟨"kmd", none, "Majukayang Kalinga"⟩,
  ⟨"kme", none, "Bakole"⟩,
  ⟨"kmf", none, "Kare"⟩,
  ⟨"kmg", none, "Kâte"⟩,
  ⟨"kmh", none, "Kalam"⟩,
  ⟨"kmi", none, "Kami"⟩,
  ⟨"kmj", none, "Kumarbhag Paharia"⟩,
  ⟨"kmk", none, "Limos Kalinga"⟩,
  ⟨"kml", none, "Tanudan Kalinga"⟩,
  ⟨"kmm", none, "Kom"⟩,
  ⟨"kmn", none, "Awtuw"⟩,
  ⟨"kmo", none, "Kwoma"⟩,
  ⟨"kmp", none, "Gimme"⟩,
  ⟨"kmq", none, "Kwama"⟩,
  ⟨"kmr", none, "Northern Kurdish"⟩,
  ⟨"kms", none, "Kamasau"⟩,
  ⟨"kmt", none, "Kemtuik"⟩,
  ⟨"kmu", none, "Kanite"⟩,
  ⟨"kmv", none, "Karipúna Creole French"⟩,
  ⟨"kmw", none, "Komo"⟩,
  ⟨"kmx", none, "Waboda"⟩,
  ⟨"kmy", none, "Koma"⟩,
  ⟨"kmz", none, "Khorasani Turkish"⟩,
  ⟨"kna", none, "Dera"⟩,
  ⟨"knb", none, "Lubuagan Kalinga"⟩,
  ⟨"knc", none, "Central Kanuri"⟩,
  ⟨"knd", none, "Konda"⟩,
  ⟨"kne", none, "Kankanaey"⟩,
  ⟨"knf", none, "Mankanya"⟩,
  ⟨"kng", none, "Koongo"⟩,
  ⟨"kni", none, "Kanufi"⟩,
  ⟨"knj", none, "Western Kanjobal"⟩,
  ⟨"knk", none, "Kuranko"⟩,
  ⟨"knl", none, "Keninjal"⟩,
  ⟨"knm", none, "Kanamarí"⟩,
  ⟨"knn", none, "Konkani"⟩,
  ⟨"kno", none, "Kono"⟩,
  ⟨"knp", none, "Kwanja"⟩,
  ⟨"knq", none, "Kintaq"⟩,
  ⟨"knr", none, "Kaningra"⟩,
  ⟨"kns", none, "Kensiu"⟩,
  ⟨"knt", none, "Panoan Katukína"⟩,
  ⟨"knu", none, "Kono"⟩,
  ⟨"knv", none, "Tabo"⟩,
  ⟨"knw", none, "Kung-Ekoka"⟩,
  ⟨"knx", none, "Kendayan"⟩,
  ⟨"kny", none, "Kanyok"⟩,
  ⟨"knz", none, "Kalamsé"⟩,
  ⟨"koa", none, "Konomala"⟩,
  ⟨"koc", none, "Kpati"⟩,
  ⟨"kod", none, "Kodi"⟩,
  ⟨"koe", none, "Kacipo-Bale Suri"⟩,
  ⟨"kof", none, "Kubi"⟩,
  ⟨"kog", none, "Cogui"⟩,
  ⟨"koh", none, "Koyo"⟩,
  ⟨"koi", none, "Komi-Permyak"⟩,
  ⟨"kok", none, "Konkani"⟩,
  ⟨"kol", none, "Kol"⟩,
  ⟨"kom", some "kv", "Komi"⟩,
  ⟨"kon", some "kg", "Kongo"⟩,
  ⟨"koo", none, "Konzo"⟩,
  ⟨"kop", none, "Waube"⟩,
  ⟨"koq", none, "Kota"⟩,
  ⟨"kor", some "ko", "Korean"⟩,
  ⟨"kos", none, "Kosraean"⟩,
  ⟨"kot", none, "Lagwan"⟩,
  ⟨"kou", none, "Koke"⟩,
  ⟨"kov", none, "Kudu-Camo"⟩,
  ⟨"kow", none, "Kugama"⟩,
  ⟨"koy", none, "Koyukon"⟩,
  ⟨"koz", none, "Korak"⟩,
  ⟨"kpa", none, "Kutto"⟩,
  ⟨"kpb", none, "Mullu Kurumba"⟩,
  ⟨"kpc", none, "Curripaco"⟩,
  ⟨"kpd", none, "Koba"⟩,
  ⟨"kpe", none, "Kpelle"⟩,
  ⟨"kpf", none, "Komba"⟩,
  ⟨"kpg", none, "Kapingamarangi"⟩,
  ⟨"kph", none, "Kplang"⟩,
  ⟨"kpi", none, "Kofei"⟩,
  ⟨"kpj", none, "Karajá"⟩,
  ⟨"kpk", none, "Kpan"⟩,
  ⟨"kpl", none, "Kpala"⟩,
  ⟨"kpm", none, "Koho"⟩,
  ⟨"kpn", none, "Kepkiriwát"⟩,
  ⟨"kpo", none, "Ikposo"⟩,
  ⟨"kpq", none, "Korupun-Sela"⟩,
  ⟨"kpr", none, "Korafe-Yegha-Minjim"⟩,
  ⟨"kps", none, "Tehit"⟩,
  ⟨"kpt", none, "Karata"⟩,
  ⟨"kpu", none, "Kafoa"⟩,
  ⟨"kpv", none, "Komi-Zyrian"⟩,
  ⟨"kpw", none, "Kobon"⟩,
  ⟨"kpx", none, "Mountain Koiali"⟩,
  ⟨"kpy", none, "Koryak"⟩,
  ⟨"kpz", none, "Kupsabiny"⟩,
  ⟨"kqa", none, "Mum"⟩,
  ⟨"kqb", none, "Kovai"⟩,
  ⟨"kqc", none, "Doromu-Koki"⟩,
  ⟨"kqd", none, "Koy Sanjaq Surat"⟩,
  ⟨"kqe", none, "Kalagan"⟩,
  ⟨"kqf", none, "Kakabai"⟩,
  ⟨"kqg", none, "Khe"⟩,
  ⟨"kqh", none, "Kisankasa"⟩,
  ⟨"kqi", none, "Koitabu"⟩,
  ⟨"kqj", none, "Koromira"⟩,
  ⟨"kqk", none, "Kotafon Gbe"⟩,
  ⟨"kql", none, "Kyenele"⟩,
  ⟨"kqm", none, "Khisa"⟩,
  ⟨"kqn", none, "Kaonde"⟩,
  ⟨"kqo", none, "Eastern Krahn"⟩,
  ⟨"kqp", none, "Kimré"⟩,
  ⟨"kqq", none, "Krenak"⟩,
  ⟨"kqr", none, "Kimaragang"⟩,
  ⟨"kqs", none, "Northern Kissi"⟩,
  ⟨"kqt", none, "Klias River Kadazan"⟩,
  ⟨"kqu", none, "Seroa"⟩,
  ⟨"kqv", none, "Okolod"⟩,
  ⟨"kqw", none, "Kandas"⟩,
  ⟨"kqx", none, "Mser"⟩,
  ⟨"kqy", none, "Koorete"⟩,
  ⟨"kqz", none, "Korana"⟩,
  ⟨"kra", none, "Kumhali"⟩,
  ⟨"krb", none, "Karkin"⟩,
  ⟨"krc", none, "Karachay-Balkar"⟩,
  ⟨"krd", none, "Kairui-Midiki"⟩,
  ⟨"kre", none, "Panará"⟩,
  ⟨"krf", none, "Koro"⟩,
  ⟨"krh", none, "Kurama"⟩,
  ⟨"kri", none, "Krio"⟩,
  ⟨"krj", none, "Kinaray-A"⟩,
  ⟨"krk", none, "Kerek"⟩,
  ⟨"krl", none, "Karelian"⟩,
  ⟨"krn", none, "Sapo"⟩,
  ⟨"krp", none, "Korop"⟩,
  ⟨"krr", none, "Krung"⟩,
  ⟨"krs", none, "Gbaya"⟩,
  ⟨"krt", none, "Tumari Kanuri"⟩,
  ⟨"kru", none, "Kurukh"⟩,
  ⟨"krv", none, "Kavet"⟩,
  ⟨"krw", none, "Western Krahn"⟩,
  ⟨"krx", none, "Karon"⟩,
  ⟨"kry", none, "Kryts"⟩,
  ⟨"krz", none, "Sota Kanum"⟩,
  ⟨"ksa", none, "Shuwa-Zamani"⟩,
  ⟨"ksb", none, "Shambala"⟩,
  ⟨"ksc", none, "Southern Kalinga"⟩,
  ⟨"ksd", none, "Kuanua"⟩,
  ⟨"kse", none, "Kuni"⟩,
  ⟨"ksf", none, "Bafia"⟩,
  ⟨"ksg", none, "Kusaghe"⟩,
  ⟨"ksh", none, "Kölsch"⟩,
  ⟨"ksi", none, "Krisa"⟩,
  ⟨"ksj", none, "Uare"⟩,
  ⟨"ksk", none, "Kansa"⟩,
  ⟨"ksl", none, "Kumalu"⟩,
  ⟨"ksm", none, "Kumba"⟩,
  ⟨"ksn", none, "Kasiguranin"⟩,
  ⟨"kso", none, "Kofa"⟩,
  ⟨"ksp", none, "Kaba"⟩,
  ⟨"ksq", none, "Kwaami"⟩,
  ⟨"ksr", none, "Borong"⟩,
  ⟨"kss", none, "Southern Kisi"⟩,
  ⟨"kst", none, "Winyé"⟩,
  ⟨"ksu", none, "Khamyang"⟩,
  ⟨"ksv", none, "Kusu"⟩,
  ⟨"ksw", none, "S'gaw Karen"⟩,
  ⟨"ksx", none, "Kedang"⟩,
  ⟨"ksy", none, "Kharia Thar"⟩,
  ⟨"ksz", none, "Kodaku"⟩,
  ⟨"kta", none, "Katua"⟩,
  ⟨"ktb", none, "Kambaata"⟩,
  ⟨"ktc", none, "Kholok"⟩,
  ⟨"ktd", none, "Kokata"⟩,
  ⟨"kte", none, "Nubri"⟩,
  ⟨"ktf", none, "Kwami"⟩,
  ⟨"ktg", none, "Kalkutung"⟩,
  ⟨"kth", none, "Karanga"⟩,
  ⟨"kti", none, "North Muyu"⟩,
  ⟨"ktj", none, "Plapo Krumen"⟩,
  ⟨"ktk", none, "Kaniet"⟩,
  ⟨"ktl", none, "Koroshi"⟩,
  ⟨"ktm", none, "Kurti"⟩,
  ⟨"ktn", none, "Karitiâna"⟩,
  ⟨"kto", none, "Kuot"⟩,
  ⟨"ktp", none, "Kaduo"⟩,
  ⟨"ktq", none, "Katabaga"⟩,
  ⟨"kts", none, "South Muyu"⟩,
  ⟨"ktt", none, "Ketum"⟩,
  ⟨"ktu", none, "Kituba"⟩,
  ⟨"ktv", none, "Eastern Katu"⟩,
  ⟨"ktw", none, "Kato"⟩,
  ⟨"ktx", none, "Kaxararí"⟩,
  ⟨"kty", none, "Kango"⟩,
  ⟨"ktz", none, "Juǀʼhoan"⟩,
  ⟨"kua", some "kj", "Kuanyama"⟩,
  ⟨"kub", none, "Kutep"⟩,
  ⟨"kuc", none, "Kwinsu"⟩,
  ⟨"kud", none, "'Auhelawa"⟩,
  ⟨"kue", none, "Kuman"⟩,
  ⟨"kuf", none, "Western Katu"⟩,
  ⟨"kug", none, "Kupa"⟩,
  ⟨"kuh", none, "Kushi"⟩,
  ⟨"kui", none, "Kuikúro-Kalapálo"⟩,
  ⟨"kuj", none, "Kuria"⟩,
  ⟨"kuk", none, "Kepo'"⟩,
  ⟨"kul", none, "Kulere"⟩,
  ⟨"kum", none, "Kumyk"⟩,
  ⟨"kun", none, "Kunama"⟩,
  ⟨"kuo", none, "Kumukio"⟩,
  ⟨"kup", none, "Kunimaipa"⟩,
  ⟨"kuq", none, "Karipuna"⟩,
  ⟨"kur", some "ku", "Kurdish"⟩,
  ⟨"kus", none, "Kusaal"⟩,
  ⟨"kut", none, "Kutenai"⟩,
  ⟨"kuu", none, "Upper Kuskokwim"⟩,
  ⟨"kuv", none, "Kur"⟩,
  ⟨"kuw", none, "Kpagua"⟩,
  ⟨"kux", none, "Kukatja"⟩,
  ⟨"kuy", none, "Kuuku-Ya'u"⟩,
  ⟨"kuz", none, "Kunza"⟩,
  ⟨"kva", none, "Bagvalal"⟩,
  ⟨"kvb", none, "Kubu"⟩,
  ⟨"kvc", none, "Kove"⟩,
  ⟨"kvd", none, "Kui"⟩,
  ⟨"kve", none, "Kalabakan"⟩,
  ⟨"kvf", none, "Kabalai"⟩,
  ⟨"kvg", none, "Kuni-Boazi"⟩,
  ⟨"kvh", none, "Komodo"⟩,
  ⟨"kvi", none, "Kwang"⟩,
  ⟨"kvj", none, "Psikye"⟩,
  ⟨"kvk", none, "Korean Sign Language"⟩,
  ⟨"kvl", none, "Kayaw"⟩,
  ⟨"kvm", none, "Kendem"⟩,
  ⟨"kvn", none, "Border Kuna"⟩,
  ⟨"kvo", none, "Dobel"⟩,
  ⟨"kvp", none, "Kompane"⟩,
  ⟨"kvq", none, "Geba Karen"⟩,
  ⟨"kvr", none, "Kerinci"⟩,
  ⟨"kvt", none, "Lahta Karen"⟩,
  ⟨"kvu", none, "Yinbaw Karen"⟩,
  ⟨"kvv", none, "Kola"⟩,
  ⟨"kvw", none, "Wersing"⟩,
  ⟨"kvx", none, "Parkari Koli"⟩,
  ⟨"kvy", none, "Yintale Karen"⟩,
  ⟨"kvz", none, "Tsakwambo"⟩,
  ⟨"kwa", none, "Dâw"⟩,
  ⟨"kwb", none, "Kwa"⟩,
  ⟨"kwc", none, "Likwala"⟩,
  ⟨"kwd", none, "Kwaio"⟩,
  ⟨"kwe", none, "Kwerba"⟩,
  ⟨"kwf", none, "Kwara'ae"⟩,
  ⟨"kwg", none, "Sara Kaba Deme"⟩,
  ⟨"kwh", none, "Kowiai"⟩,
  ⟨"kwi", none, "Awa-Cuaiquer"⟩,
  ⟨"kwj", none, "Kwanga"⟩,
  ⟨"kwk", none, "Kwakiutl"⟩,
  ⟨"kwl", none, "Kofyar"⟩,
  ⟨"kwm", none, "Kwambi"⟩,
  ⟨"kwn", none, "Kwangali"⟩,
  ⟨"kwo", none, "Kwomtari"⟩,
  ⟨"kwp", none, "Kodia"⟩,
  ⟨"kwr", none, "Kwer"⟩,
  ⟨"kws", none, "Kwese"⟩,
  ⟨"kwt", none, "Kwesten"⟩,
  ⟨"kwu", none, "Kwakum"⟩,
  ⟨"kwv", none, "Sara Kaba Náà"⟩,
  ⟨"kww", none, "Kwinti"⟩,
  ⟨"kwx", none, "Khirwar"⟩,
  ⟨"kwy", none, "San Salvador Kongo"⟩,
  ⟨"kwz", none, "Kwadi"⟩,
  ⟨"kxa", none, "Kairiru"⟩,
  ⟨"kxb", none, "Krobu"⟩,
  ⟨"kxc", none, "Konso"⟩,
  ⟨"kxd", none, "Brunei"⟩,
  ⟨"kxf", none, "Manumanaw Karen"⟩,
  ⟨"kxh", none, "Karo"⟩,
  ⟨"kxi", none, "Keningau Murut"⟩,
  ⟨"kxj", none, "Kulfa"⟩,
  ⟨"kxk", none, "Zayein Karen"⟩,
  ⟨"kxm", none, "Northern Khmer"⟩,
  ⟨"kxn", none, "Kanowit-Tanjong Melanau"⟩,
  ⟨"kxo", none, "Kanoé"⟩,
  ⟨"kxp", none, "Wadiyara Koli"⟩,
  ⟨"kxq", none, "Smärky Kanum"⟩,
  ⟨"kxr", none, "Koro"⟩,
  ⟨"kxs", none, "Kangjia"⟩,
  ⟨"kxt", none, "Koiwat"⟩,
  ⟨"kxv", none, "Kuvi"⟩,
  ⟨"kxw", none, "Konai"⟩,
  ⟨"kxx", none, "Likuba"⟩,
  ⟨"kxy", none, "Kayong"⟩,
  ⟨"kxz", none, "Kerewo"⟩,
  ⟨"kya", none, "Kwaya"⟩,
  ⟨"kyb", none, "Butbut Kalinga"⟩,
  ⟨"kyc", none, "Kyaka"⟩,
  ⟨"kyd", none, "Karey"⟩,
  ⟨"kye", none, "Krache"⟩,
  ⟨"kyf", none, "Kouya"⟩,
  ⟨"kyg", none, "Keyagana"⟩,
  ⟨"kyh", none, "Karok"⟩,
  ⟨"kyi", none, "Kiput"⟩,
  ⟨"kyj", none, "Karao"⟩,
  ⟨"kyk", none, "Kamayo"⟩,
  ⟨"kyl", none, "Kalapuya"⟩,
  ⟨"kym", none, "Kpatili"⟩,
  ⟨"kyn", none, "Northern Binukidnon"⟩,
  ⟨"kyo", none, "Kelon"⟩,
  ⟨"kyp", none, "Kang"⟩,
  ⟨"kyq", none, "Kenga"⟩,
  ⟨"kyr", none, "Kuruáya"⟩,
  ⟨"kys", none, "Baram Kayan"⟩,
  ⟨"kyt", none, "Kayagar"⟩,
  ⟨"kyu", none, "Western Kayah"⟩,
  ⟨"kyv", none, "Kayort"⟩,
  ⟨"kyw", none, "Kudmali"⟩,
  ⟨"kyx", none, "Rapoisi"⟩,
  ⟨"kyy", none, "Kambaira"⟩,
  ⟨"kyz", none, "Kayabí"⟩,
  ⟨"kza", none, "Western Karaboro"⟩,
  ⟨"kzb", none, "Kaibobo"⟩,
  ⟨"kzc", none, "Bondoukou Kulango"⟩,
  ⟨"kzd", none, "Kadai"⟩,
  ⟨"kze", none, "Kosena"⟩,
  ⟨"kzf", none, "Da'a Kaili"⟩,
  ⟨"kzg", none, "Kikai"⟩,
  ⟨"kzi", none, "Kelabit"⟩,
  ⟨"kzk", none, "Kazukuru"⟩,
  ⟨"kzl", none, "Kayeli"⟩,
  ⟨"kzm", none, "Kais"⟩,
  ⟨"kzn", none, "Kokola"⟩,
  ⟨"kzo", none, "Kaningi"⟩,
  ⟨"kzp", none, "Kaidipang"⟩,
  ⟨"kzq", none, "Kaike"⟩,
  ⟨"kzr", none, "Karang"⟩,
  ⟨"kzs", none, "Sugut Dusun"⟩,
  ⟨"kzu", none, "Kayupulau"⟩,
  ⟨"kzv", none, "Komyandaret"⟩,
  ⟨"kzw", none, "Karirí-Xocó"⟩,
  ⟨"kzx", none, "Kamarian"⟩,
  ⟨"kzy", none, "Kango"⟩,
  ⟨"kzz", none, "Kalabra"⟩]

/-- The languages whose three-letter code starts with `l`, in code order. -/
def entriesL : List Entry := [
  ⟨"laa", none, "Southern Subanen"⟩,
  ⟨"lab", none, "Linear A"⟩,
  ⟨"lac", none, "Lacandon"⟩,
  ⟨"lad", none, "Ladino"⟩,
  ⟨"lae", none, "Pattani"⟩,
  ⟨"laf", none, "Lafofa"⟩,
  ⟨"lag", none, "Rangi"⟩,
  ⟨"lah", none, "Lahnda"⟩,
  ⟨"lai", none, "Lambya"⟩,
  ⟨"laj", none, "Lango"⟩,
  ⟨"lal", none, "Lalia"⟩,
  ⟨"lam", none, "Lamba"⟩,
  ⟨"lan", none, "Laru"⟩,
  ⟨"lao", some "lo", "Lao"⟩,
  ⟨"lap", none, "Laka"⟩,
  ⟨"laq", none, "Qabiao"⟩,
  ⟨"lar", none, "Larteh"⟩,
  ⟨"las", none, "Lama"⟩,
  ⟨"lat", some "la", "Latin"⟩,
  ⟨"lau", none, "Laba"⟩,
  ⟨"lav", some "lv", "Latvian"⟩,
  ⟨"law", none, "Lauje"⟩,
  ⟨"lax", none, "Tiwa"⟩,
  ⟨"lay", none, "Lama Bai"⟩,
  ⟨"laz", none, "Aribwatsa"⟩,
  ⟨"lbb", none, "Label"⟩,
  ⟨"lbc", none, "Lakkia"⟩,
  ⟨"lbe", none, "Lak"⟩,
  ⟨"lbf", none, "Tinani"⟩,
  ⟨"lbg", none, "Laopang"⟩,
  ⟨"lbi", none, "La'bi"⟩,
  ⟨"lbj", none, "Ladakhi"⟩,
  ⟨"lbk", none, "Central Bontok"⟩,
  ⟨"lbl", none, "Libon Bikol"⟩,
  ⟨"lbm", none, "Lodhi"⟩,
  ⟨"lbn", none, "Rmeet"⟩,
  ⟨"lbo", none, "Laven"⟩,
  ⟨"lbq", none, "Wampar"⟩,
  ⟨"lbr", none, "Lohorung"⟩,
  ⟨"lbs", none, "Libyan Sign Language"⟩,
  ⟨"lbt", none, "Lachi"⟩,
  ⟨"lbu", none, "Labu"⟩,
  ⟨"lbv", none, "Lavatbura-Lamusong"⟩,
  ⟨"lbw", none, "Tolaki"⟩,
  ⟨"lbx", none, "Lawangan"⟩,
  ⟨"lby", none, "Lamalama"⟩,
  ⟨"lbz", none, "Lardil"⟩,
  ⟨"lcc", none, "Legenyem"⟩,
  ⟨"lcd", none, "Lola"⟩,
  ⟨"lce", none, "Loncong"⟩,
  ⟨"lcf", none, "Lubu"⟩,
  ⟨"lch", none, "Luchazi"⟩,
  ⟨"lcl", none, "Lisela"⟩,
  ⟨"lcm", none, "Tungag"⟩,
  ⟨"lcp", none, "Western Lawa"⟩,
  ⟨"lcq", none, "Luhu"⟩,
  ⟨"lcs", none, "Lisabata-Nuniali"⟩,
  ⟨"lda", none, "Kla-Dan"⟩,
  ⟨"ldb", none, "Dũya"⟩,
  ⟨"ldd", none, "Luri"⟩,
  ⟨"ldg", none, "Lenyima"⟩,
  ⟨"ldh", none, "Lamja-Dengsa-Tola"⟩,
  ⟨"ldi", none, "Laari"⟩,
  ⟨"ldj", none, "Lemoro"⟩,
  ⟨"ldk", none, "Leelau"⟩,
  ⟨"ldl", none, "Kaan"⟩,
  ⟨"ldm", none, "Landoma"⟩,
  ⟨"ldn", none, "Láadan"⟩,
  ⟨"ldo", none, "Loo"⟩,
  ⟨"ldp", none, "Tso"⟩,
  ⟨"ldq", none, "Lufu"⟩,
  ⟨"lea", none, "Lega-Shabunda"⟩,
  ⟨"leb", none, "Lala-Bisa"⟩,
  ⟨"lec", none, "Leco"⟩,
  ⟨"led", none, "Lendu"⟩,
  ⟨"lee", none, "Lyélé"⟩,
  ⟨"lef", none, "Lelemi"⟩,
  ⟨"leh", none, "Lenje"⟩,
  ⟨"lei", none, "Lemio"⟩,
  ⟨"lej", none, "Lengola"⟩,
  ⟨"lek", none, "Leipon"⟩,
  ⟨"lel", none, "Lele"⟩,
  ⟨"lem", none, "Nomaande"⟩,
  ⟨"len", none, "Lenca"⟩,
  ⟨"leo", none, "Leti"⟩,
  ⟨"lep", none, "Lepcha"⟩,
  ⟨"leq", none, "Lembena"⟩,
  ⟨"ler", none, "Lenkau"⟩,
  ⟨"les", none, "Lese"⟩,
  ⟨"let", none, "Lesing-Gelimi"⟩,
  ⟨"leu", none, "Kara"⟩,
  ⟨"lev", none, "Lamma"⟩,
  ⟨"lew", none, "Ledo Kaili"⟩,
  ⟨"lex", none, "Luang"⟩,
  ⟨"ley", none, "Lemolang"⟩,
  ⟨"lez", none, "Lezghian"⟩,
  ⟨"lfa", none, "Lefa"⟩,
  ⟨"lfn", none, "Lingua Franca Nova"⟩,
  ⟨"lga", none, "Lungga"⟩,
  ⟨"lgb", none, "Laghu"⟩,
  ⟨"lgg", none, "Lugbara"⟩,
  ⟨"lgh", none, "Laghuu"⟩,
  ⟨"lgi", none, "Lengilu"⟩,
  ⟨"lgk", none, "Lingarak"⟩,
  ⟨"lgl", none, "Wala"⟩,
  ⟨"lgm", none, "Lega-Mwenga"⟩,
  ⟨"lgn", none, "T'apo"⟩,
  ⟨"lgq", none, "Logba"⟩,
  ⟨"lgr", none, "Lengo"⟩,
  ⟨"lgt", none, "Pahi"⟩,
  ⟨"lgu", none, "Longgu"⟩,
  ⟨"lgz", none, "Ligenza"⟩,
  ⟨"lha", none, "Laha"⟩,
  ⟨"lhh", none, "Laha"⟩,
  ⟨"lhi", none, "Lahu Shi"⟩,
  ⟨"lhl", none, "Lahul Lohar"⟩,
  ⟨"lhm", none, "Lhomi"⟩,
  ⟨"lhn", none, "Lahanan"⟩,
  ⟨"lhp", none, "Lhokpu"⟩,
  ⟨"lhs", none, "Mlahsö"⟩,
  ⟨"lht", none, "Lo-Toga"⟩,
  ⟨"lhu", none, "Lahu"⟩,
  ⟨"lia", none, "West-Central Limba"⟩,
  ⟨"lib", none, "Likum"⟩,
  ⟨"lic", none, "Hlai"⟩,
  ⟨"lid", none, "Nyindrou"⟩,
  ⟨"lie", none, "Likila"⟩,
  ⟨"lif", none, "Limbu"⟩,
  ⟨"lig", none, "Ligbi"⟩,
  ⟨"lih", none, "Lihir"⟩,
  ⟨"lij", none, "Ligurian"⟩,
  ⟨"lik", none, "Lika"⟩,
  ⟨"lil", none, "Lillooet"⟩,
  ⟨"lim", some "li", "Limburgan"⟩,
  ⟨"lin", some "ln", "Lingala"⟩,
  ⟨"lio", none, "Liki"⟩,
  ⟨"lip", none, "Sekpele"⟩,
  ⟨"liq", none, "Libido"⟩,
  ⟨"lir", none, "Liberian English"⟩,
  ⟨"lis", none, "Lisu"⟩,
  ⟨"lit", some "lt", "Lithuanian"⟩,
  ⟨"liu", none, "Logorik"⟩,
  ⟨"liv", none, "Liv"⟩,
  ⟨"liw", none, "Col"⟩,
  ⟨"lix", none, "Liabuku"⟩,
  ⟨"liy", none, "Banda-Bambari"⟩,
  ⟨"liz", none, "Libinza"⟩,
  ⟨"lja", none, "Golpa"⟩,
  ⟨"lje", none, "Rampi"⟩,
  ⟨"lji", none, "Laiyolo"⟩,
  ⟨"ljl", none, "Li'o"⟩,
  ⟨"ljp", none, "Lampung Api"⟩,
  ⟨"ljw", none, "Yirandali"⟩,
  ⟨"ljx", none, "Yuru"⟩,
  ⟨"lka", none, "Lakalei"⟩,
  ⟨"lkb", none, "Kabras"⟩,
  ⟨"lkc", none, "Kucong"⟩,
  ⟨"lkd", none, "Lakondê"⟩,
  ⟨"lke", none, "Kenyi"⟩,
  ⟨"lkh", none, "Lakha"⟩,
  ⟨"lki", none, "Laki"⟩,
  ⟨"lkj", none, "Remun"⟩,
  ⟨"lkl", none, "Laeko-Libuat"⟩,
  ⟨"lkm", none, "Kalaamaya"⟩,
  ⟨"lkn", none, "Lakon"⟩,
  ⟨"lko", none, "Khayo"⟩,
  ⟨"lkr", none, "Päri"⟩,
  ⟨"lks", none, "Kisa"⟩,
  ⟨"lkt", none, "Lakota"⟩,
  ⟨"lku", none, "Kungkari"⟩,
  ⟨"lky", none, "Lokoya"⟩,
  ⟨"lla", none, "Lala-Roba"⟩,
  ⟨"llb", none, "Lolo"⟩,
  ⟨"llc", none, "Lele"⟩,
  ⟨"lld", none, "Ladin"⟩,
  ⟨"lle", none, "Lele"⟩,
  ⟨"llf", none, "Hermit"⟩,
  ⟨"llg", none, "Lole"⟩,
  ⟨"llh", none, "Lamu"⟩,
  ⟨"lli", none, "Teke-Laali"⟩,
  ⟨"llj", none, "Ladji Ladji"⟩,
  ⟨"llk", none, "Lelak"⟩,
  ⟨"lll", none, "Lilau"⟩,
  ⟨"llm", none, "Lasalimu"⟩,
  ⟨"lln", none, "Lele"⟩,
  ⟨"llp", none, "North Efate"⟩,
  ⟨"llq", none, "Lolak"⟩,
  ⟨"lls", none, "Lithuanian Sign Language"⟩,
  ⟨"llu", none, "Lau"⟩,
  ⟨"llx", none, "Lauan"⟩,
  ⟨"lma", none, "East Limba"⟩,
  ⟨"lmb", none, "Merei"⟩,
  ⟨"lmc", none, "Limilngan"⟩,
  ⟨"lmd", none, "Lumun"⟩,
  ⟨"lme", none, "Pévé"⟩,
  ⟨"lmf", none, "South Lembata"⟩,
  ⟨"lmg", none, "Lamogai"⟩,
  ⟨"lmh", none, "Lambichhong"⟩,
  ⟨"lmi", none, "Lombi"⟩,
  ⟨"lmj", none, "West Lembata"⟩,
  ⟨"lmk", none, "Lamkang"⟩,
  ⟨"lml", none, "Hano"⟩,
  ⟨"lmn", none, "Lambadi"⟩,
  ⟨"lmo", none, "Lombard"⟩,
  ⟨"lmp", none, "Limbum"⟩,
  ⟨"lmq", none, "Lamatuka"⟩,
  ⟨"lmr", none, "Lamalera"⟩,
  ⟨"lmu", none, "Lamenu"⟩,
  ⟨"lmv", none, "Lomaiviti"⟩,
  ⟨"lmw", none, "Lake Miwok"⟩,
  ⟨"lmx", none, "Laimbue"⟩,
  ⟨"lmy", none, "Lamboya"⟩,
  ⟨"lna", none, "Langbashe"⟩,
  ⟨"lnb", none, "Mbalanhu"⟩,
  ⟨"lnd", none, "Lundayeh"⟩,
  ⟨"lng", none, "Langobardic"⟩,
  ⟨"lnh", none, "Lanoh"⟩,
  ⟨"lni", none, "Daantanai'"⟩,
  ⟨"lnj", none, "Leningitij"⟩,
  ⟨"lnl", none, "South Central Banda"⟩,
  ⟨"lnm", none, "Langam"⟩,
  ⟨"lnn", none, "Lorediakarkar"⟩,
  ⟨"lno", none, "Lango"⟩,
  ⟨"lns", none, "Lamnso'"⟩,
  ⟨"lnu", none, "Longuda"⟩,
  ⟨"lnw", none, "Lanima"⟩,
  ⟨"lnz", none, "Lonzo"⟩,
  ⟨"loa", none, "Loloda"⟩,
  ⟨"lob", none, "Lobi"⟩,
  ⟨"loc", none, "Inonhan"⟩,
  ⟨"loe", none, "Saluan"⟩,
  ⟨"lof", none, "Logol"⟩,
  ⟨"log", none, "Logo"⟩,
  ⟨"loh", none, "Laarim"⟩,
  ⟨"loi", none, "Loma"⟩,
  ⟨"loj", none, "Lou"⟩,
  ⟨"lok", none, "Loko"⟩,
  ⟨"lol", none, "Mongo"⟩,
  ⟨"lom", none, "Loma"⟩,
  ⟨"lon", none, "Malawi Lomwe"⟩,
  ⟨"loo", none, "Lombo"⟩,
  ⟨"lop", none, "Lopa"⟩,
  ⟨"loq", none, "Lobala"⟩,
  ⟨"lor", none, "Téén"⟩,
  ⟨"los", none, "Loniu"⟩,
  ⟨"lot", none, "Otuho"⟩,
  ⟨"lou", none, "Louisiana Creole"⟩,
  ⟨"lov", none, "Lopi"⟩,
  ⟨"low", none, "Tampias Lobu"⟩,
  ⟨"lox", none, "Loun"⟩,
  ⟨"loy", none, "Loke"⟩,
  ⟨"loz", none, "Lozi"⟩,
  ⟨"lpa", none, "Lelepa"⟩,
  ⟨"lpe", none, "Lepki"⟩,
  ⟨"lpn", none, "Long Phuri Naga"⟩,
  ⟨"lpo", none, "Lipo"⟩,
  ⟨"lpx", none, "Lopit"⟩,
  ⟨"lqr", none, "Logir"⟩,
  ⟨"lra", none, "Rara Bakati'"⟩,
  ⟨"lrc", none, "Northern Luri"⟩,
  ⟨"lre", none, "Laurentian"⟩,
  ⟨"lrg", none, "Laragia"⟩,
  ⟨"lri", none, "Marachi"⟩,
  ⟨"lrk", none, "Loarki"⟩,
  ⟨"lrl", none, "Lari"⟩,
  ⟨"lrm", none, "Marama"⟩,
  ⟨"lrn", none, "Lorang"⟩,
  ⟨"lro", none, "Laro"⟩,
  ⟨"lrr", none, "Southern Yamphu"⟩,
  ⟨"lrt", none, "Larantuka Malay"⟩,
  ⟨"lrv", none, "Larevat"⟩,
  ⟨"lrz", none, "Lemerig"⟩,
  ⟨"lsa", none, "Lasgerdi"⟩,
  ⟨"lsd", none, "Lishana Deni"⟩,
  ⟨"lse", none, "Lusengo"⟩,
  ⟨"lsh", none, "Lish"⟩,
  ⟨"lsi", none, "Lashi"⟩,
  ⟨"lsl", none, "Latvian Sign Language"⟩,
  ⟨"lsm", none, "Saamia"⟩,
  ⟨"lsn", none, "Tibetan Sign Language"⟩,
  ⟨"lso", none, "Laos Sign Language"⟩,
  ⟨"lsp", none, "Panamanian Sign Language"⟩,
  ⟨"lsr", none, "Aruop"⟩,
  ⟨"lss", none, "Lasi"⟩,
  ⟨"lst", none, "Trinidad and Tobago Sign Language"⟩,
  ⟨"lsv", none, "Sivia Sign Language"⟩,
  ⟨"lsy", none, "Mauritian Sign Language"⟩,
  ⟨"ltc", none, "Late Middle Chinese"⟩,
  ⟨"ltg", none, "Latgalian"⟩,
  ⟨"lth", none, "Thur"⟩,
  ⟨"lti", none, "Leti"⟩,
  ⟨"ltn", none, "Latundê"⟩,
  ⟨"lto", none, "Tsotso"⟩,
  ⟨"lts", none, "Tachoni"⟩,
  ⟨"ltu", none, "Latu"⟩,
  ⟨"ltz", some "lb", "Luxembourgish"⟩,
  ⟨"lua", none, "Luba-Lulua"⟩,
  ⟨"lub", some "lu", "Luba-Katanga"⟩,
  ⟨"luc", none, "Aringa"⟩,
  ⟨"lud", none, "Ludian"⟩,
  ⟨"lue", none, "Luvale"⟩,
  ⟨"luf", none, "Laua"⟩,
  ⟨"lug", some "lg", "Ganda"⟩,
  ⟨"lui", none, "Luiseno"⟩,
  ⟨"luj", none, "Luna"⟩,
  ⟨"luk", none, "Lunanakha"⟩,
  ⟨"lul", none, "Olu'bo"⟩,
  ⟨"lum", none, "Luimbi"⟩,
  ⟨"lun", none, "Lunda"⟩,
  ⟨"luo", none, "Luo"⟩,
  ⟨"lup", none, "Lumbu"⟩,
  ⟨"luq", none, "Lucumi"⟩,
  ⟨"lur", none, "Laura"⟩,
  ⟨"lus", none, "Lushai"⟩,
  ⟨"lut", none, "Lushootseed"⟩,
  ⟨"luu", none, "Lumba-Yakkha"⟩,
  ⟨"luv", none, "Luwati"⟩,
  ⟨"luw", none, "Luo"⟩,
  ⟨"luy", none, "Luyia"⟩,
  ⟨"luz", none, "Southern Luri"⟩,
  ⟨"lva", none, "Maku'a"⟩,
  ⟨"lvi", none, "Lavi"⟩,
  ⟨"lvk", none, "Lavukaleve"⟩,
  ⟨"lvs", none, "Standard Latvian"⟩,
  ⟨"lvu", none, "Levuka"⟩,
  ⟨"lwa", none, "Lwalu"⟩,
  ⟨"lwe", none, "Lewo Eleng"⟩,
  ⟨"lwg", none, "Wanga"⟩,
  ⟨"lwh", none, "White Lachi"⟩,
  ⟨"lwl", none, "Eastern Lawa"⟩,
  ⟨"lwm", none, "Laomian"⟩,
  ⟨"lwo", none, "Luwo"⟩,
  ⟨"lws", none, "Malawian Sign Language"⟩,
  ⟨"lwt", none, "Lewotobi"⟩,
  ⟨"lwu", none, "Lawu"⟩,
  ⟨"lww", none, "Lewo"⟩,
  ⟨"lya", none, "Layakha"⟩,
  ⟨"lyg", none, "Lyngngam"⟩,
  ⟨"lyn", none, "Luyana"⟩,
  ⟨"lzh", none, "Literary Chinese"⟩,
  ⟨"lzl", none, "Litzlitz"⟩,
  ⟨"lzn", none, "Leinong Naga"⟩,
  ⟨"lzz", none, "Laz"⟩]

/-- The languages whose three-letter code starts with `m`, in code order. -/
def entriesM : List Entry := [
  ⟨"maa", none, "San Jerónimo Tecóatl Mazatec"⟩,
  ⟨"mab", none, "Yutanduchi Mixtec"⟩,
  ⟨"mad", none, "Madurese"⟩,
  ⟨"mae", none, "Bo-Rukul"⟩,
  ⟨"maf", none, "Mafa"⟩,
  ⟨"mag", none, "Magahi"⟩,
  ⟨"mah", some "mh", "Marshallese"⟩,
  ⟨"mai", none, "Maithili"⟩,
  ⟨"maj", none, "Jalapa De Díaz Mazatec"⟩,
  ⟨"mak", none, "Makasar"⟩,
  ⟨"mal", some "ml", "Malayalam"⟩,
  ⟨"mam", none, "Mam"⟩,
  ⟨"man", none, "Mandingo"⟩,
  ⟨"maq", none, "Chiquihuitlán Mazatec"⟩,
  ⟨"mar", some "mr", "Marathi"⟩,
  ⟨"mas", none, "Masai"⟩,
  ⟨"mat", none, "San Francisco Matlatzinca"⟩,
  ⟨"mau", none, "Huautla Mazatec"⟩,
  ⟨"mav", none, "Sateré-Mawé"⟩,
  ⟨"maw", none, "Mampruli"⟩,
  ⟨"max", none, "North Moluccan Malay"⟩,
  ⟨"maz", none, "Central Mazahua"⟩,
  ⟨"mba", none, "Higaonon"⟩,
  ⟨"mbb", none, "Western Bukidnon Manobo"⟩,
  ⟨"mbc", none, "Macushi"⟩,
  ⟨"mbd", none, "Dibabawon Manobo"⟩,
  ⟨"mbe", none, "Molale"⟩,
  ⟨"mbf", none, "Baba Malay"⟩,
  ⟨"mbh", none, "Mangseng"⟩,
  ⟨"mbi", none, "Ilianen Manobo"⟩,
  ⟨"mbj", none, "Nadëb"⟩,
  ⟨"mbk", none, "Malol"⟩,
  ⟨"mbl", none, "Maxakalí"⟩,
  ⟨"mbm", none, "Ombamba"⟩,
  ⟨"mbn", none, "Macaguán"⟩,
  ⟨"mbo", none, "Mbo"⟩,
  ⟨"mbp", none, "Malayo"⟩,
  ⟨"mbq", none, "Maisin"⟩,
  ⟨"mbr", none, "Nukak Makú"⟩,
  ⟨"mbs", none, "Sarangani Manobo"⟩,
  ⟨"mbt", none, "Matigsalug Manobo"⟩,
  ⟨"mbu", none, "Mbula-Bwazza"⟩,
  ⟨"mbv", none, "Mbulungish"⟩,
  ⟨"mbw", none, "Maring"⟩,
  ⟨"mbx", none, "Mari"⟩,
  ⟨"mby", none, "Memoni"⟩,
  ⟨"mbz", none, "Amoltepec Mixtec"⟩,
  ⟨"mca", none, "Maca"⟩,
  ⟨"mcb", none, "Machiguenga"⟩,
  ⟨"mcc", none, "Bitur"⟩,
  ⟨"mcd", none, "Sharanahua"⟩,
  ⟨"mce", none, "Itundujia Mixtec"⟩,
  ⟨"mcf", none, "Matsés"⟩,
  ⟨"mcg", none, "Mapoyo"⟩,
  ⟨"mch", none, "Maquiritari"⟩,
  ⟨"mci", none, "Mese"⟩,
  ⟨"mcj", none, "Mvanip"⟩,
  ⟨"mck", none, "Mbunda"⟩,
  ⟨"mcl", none, "Macaguaje"⟩,
  ⟨"mcm", none, "Malaccan Creole Portuguese"⟩,
  ⟨"mcn", none, "Masana"⟩,
  ⟨"mco", none, "Coatlán Mixe"⟩,
  ⟨"mcp", none, "Makaa"⟩,
  ⟨"mcq", none, "Ese"⟩,
  ⟨"mcr", none, "Menya"⟩,
  ⟨"mcs", none, "Mambai"⟩,
  ⟨"mct", none, "Mengisa"⟩,
  ⟨"mcu", none, "Cameroon Mambila"⟩,
  ⟨"mcv", none, "Minanibai"⟩,
  ⟨"mcw", none, "Mawa"⟩,
  ⟨"mcx", none, "Mpiemo"⟩,
  ⟨"mcy", none, "South Watut"⟩,
  ⟨"mcz", none, "Mawan"⟩,
  ⟨"mda", none, "Mada"⟩,
  ⟨"mdb", none, "Morigi"⟩,
  ⟨"mdc", none, "Male"⟩,
  ⟨"mdd", none, "Mbum"⟩,
  ⟨"mde", none, "Maba"⟩,
  ⟨"mdf", none, "Moksha"⟩,
  ⟨"mdg", none, "Massalat"⟩,
  ⟨"mdh", none, "Maguindanaon"⟩,
  ⟨"mdi", none, "Mamvu"⟩,
  ⟨"mdj", none, "Mangbetu"⟩,
  ⟨"mdk", none, "Mangbutu"⟩,
  ⟨"mdl", none, "Maltese Sign Language"⟩,
  ⟨"mdm", none, "Mayogo"⟩,
  ⟨"mdn", none, "Mbati"⟩,
  ⟨"mdp", none, "Mbala"⟩,
  ⟨"mdq", none, "Mbole"⟩,
  ⟨"mdr", none, "Mandar"⟩,
  ⟨"mds", none, "Maria"⟩,
  ⟨"mdt", none, "Mbere"⟩,
  ⟨"mdu", none, "Mboko"⟩,
  ⟨"mdv", none, "Santa Lucía Monteverde Mixtec"⟩,
  ⟨"mdw", none, "Mbosi"⟩,
  ⟨"mdx", none, "Dizin"⟩,
  ⟨"mdy", none, "Male"⟩,
  ⟨"mdz", none, "Suruí Do Pará"⟩,
  ⟨"mea", none, "Menka"⟩,
  ⟨"meb", none, "Ikobi"⟩,
  ⟨"mec", none, "Marra"⟩,
  ⟨"med", none, "Melpa"⟩,
  ⟨"mee", none, "Mengen"⟩,
  ⟨"mef", none, "Megam"⟩,
  ⟨"meh", none, "Southwestern Tlaxiaco Mixtec"⟩,
  ⟨"mei", none, "Midob"⟩,
  ⟨"mej", none, "Meyah"⟩,
  ⟨"mek", none, "Mekeo"⟩,
  ⟨"mel", none, "Central Melanau"⟩,
  ⟨"mem", none, "Mangala"⟩,
  ⟨"men", none, "Mende"⟩,
  ⟨"meo", none, "Kedah Malay"⟩,
  ⟨"mep", none, "Miriwoong"⟩,
  ⟨"meq", none, "Merey"⟩,
  ⟨"mer", none, "Meru"⟩,
  ⟨"mes", none, "Masmaje"⟩,
  ⟨"met", none, "Mato"⟩,
  ⟨"meu", none, "Motu"⟩,
  ⟨"mev", none, "Mano"⟩,
  ⟨"mew", none, "Maaka"⟩,
  ⟨"mey", none, "Hassaniyya"⟩,
  ⟨"mez", none, "Menominee"⟩,
  ⟨"mfa", none, "Pattani Malay"⟩,
  ⟨"mfb", none, "Bangka"⟩,
  ⟨"mfc", none, "Mba"⟩,
  ⟨"mfd", none, "Mendankwe-Nkwen"⟩,
  ⟨"mfe", none, "Morisyen"⟩,
  ⟨"mff", none, "Naki"⟩,
  ⟨"mfg", none, "Mogofin"⟩,
  ⟨"mfh", none, "Matal"⟩,
  ⟨"mfi", none, "Wandala"⟩,
  ⟨"mfj", none, "Mefele"⟩,
  ⟨"mfk", none, "North Mofu"⟩,
  ⟨"mfl", none, "Putai"⟩,
  ⟨"mfm", none, "Marghi South"⟩,
  ⟨"mfn", none, "Cross River Mbembe"⟩,
  ⟨"mfo", none, "Mbe"⟩,
  ⟨"mfp", none, "Makassar Malay"⟩,
  ⟨"mfq", none, "Moba"⟩,
  ⟨"mfr", none, "Marrithiyel"⟩,
  ⟨"mfs", none, "Mexican Sign Language"⟩,
  ⟨"mft", none, "Mokerang"⟩,
  ⟨"mfu", none, "Mbwela"⟩,
  ⟨"mfv", none, "Mandjak"⟩,
  ⟨"mfw", none, "Mulaha"⟩,
  ⟨"mfx", none, "Melo"⟩,
  ⟨"mfy", none, "Mayo"⟩,
  ⟨"mfz", none, "Mabaan"⟩,
  ⟨"mga", none, "Middle Irish"⟩,
  ⟨"mgb", none, "Mararit"⟩,
  ⟨"mgc", none, "Morokodo"⟩,
  ⟨"mgd", none, "Moru"⟩,
  ⟨"mge", none, "Mango"⟩,
  ⟨"mgf", none, "Maklew"⟩,
  ⟨"mgg", none, "Mpumpong"⟩,
  ⟨"mgh", none, "Makhuwa-Meetto"⟩,
  ⟨"mgi", none, "Lijili"⟩,
  ⟨"mgj", none, "Abureni"⟩,
  ⟨"mgk", none, "Mawes"⟩,
  ⟨"mgl", none, "Maleu-Kilenge"⟩,
  ⟨"mgm", none, "Mambae"⟩,
  ⟨"mgn", none, "Mbangi"⟩,
  ⟨"mgo", none, "Meta'"⟩,
  ⟨"mgp", none, "Eastern Magar"⟩,
  ⟨"mgq", none, "Malila"⟩,
  ⟨"mgr", none, "Mambwe-Lungu"⟩,
  ⟨"mgs", none, "Manda"⟩,
  ⟨"mgt", none, "Mongol"⟩,
  ⟨"mgu", none, "Mailu"⟩,
  ⟨"mgv", none, "Matengo"⟩,
  ⟨"mgw", none, "Matumbi"⟩,
  ⟨"mgy", none, "Mbunga"⟩,
  ⟨"mgz", none, "Mbugwe"⟩,
  ⟨"mha", none, "Manda"⟩,
  ⟨"mhb", none, "Mahongwe"⟩,
  ⟨"mhc", none, "Mocho"⟩,
  ⟨"mhd", none, "Mbugu"⟩,
  ⟨"mhe", none, "Besisi"⟩,
  ⟨"mhf", none, "Mamaa"⟩,
  ⟨"mhg", none, "Margu"⟩,
  ⟨"mhh", none, "Maskoy Pidgin"⟩,
  ⟨"mhi", none, "Ma'di"⟩,
  ⟨"mhj", none, "Mogholi"⟩,
  ⟨"mhk", none, "Mungaka"⟩,
  ⟨"mhl", none, "Mauwake"⟩,
  ⟨"mhm", none, "Makhuwa-Moniga"⟩,
  ⟨"mhn", none, "Mócheno"⟩,
  ⟨"mho", none, "Mashi"⟩,
  ⟨"mhp", none, "Balinese Malay"⟩,
  ⟨"mhq", none, "Mandan"⟩,
  ⟨"mhr", none, "Eastern Mari"⟩,
  ⟨"mhs", none, "Buru"⟩,
  ⟨"mht", none, "Mandahuaca"⟩,
  ⟨"mhu", none, "Digaro-Mishmi"⟩,
  ⟨"mhw", none, "Mbukushu"⟩,
  ⟨"mhx", none, "Maru"⟩,
  ⟨"mhy", none, "Ma'anyan"⟩,
  ⟨"mhz", none, "Mor"⟩,
  ⟨"mia", none, "Miami"⟩,
  ⟨"mib", none, "Atatláhuca Mixtec"⟩,
  ⟨"mic", none, "Mi'kmaq"⟩,
  ⟨"mid", none, "Mandaic"⟩,
  ⟨"mie", none, "Ocotepec Mixtec"⟩,
  ⟨"mif", none, "Mofu-Gudur"⟩,
  ⟨"mig", none, "San Miguel El Grande Mixtec"⟩,
  ⟨"mih", none, "Chayuco Mixtec"⟩,
  ⟨"mii", none, "Chigmecatitlán Mixtec"⟩,
  ⟨"mij", none, "Abar"⟩,
  ⟨"mik", none, "Mikasuki"⟩,
  ⟨"mil", none, "Peñoles Mixtec"⟩,
  ⟨"mim", none, "Alacatlatzala Mixtec"⟩,
  ⟨"min", none, "Minangkabau"⟩,
  ⟨"mio", none, "Pinotepa Nacional Mixtec"⟩,
  ⟨"mip", none, "Apasco-Apoala Mixtec"⟩,
  ⟨"miq", none, "Mískito"⟩,
  ⟨"mir", none, "Isthmus Mixe"⟩,
  ⟨"mis", none, "Uncoded languages"⟩,
  ⟨"mit", none, "Southern Puebla Mixtec"⟩,
  ⟨"miu", none, "Cacaloxtepec Mixtec"⟩,
  ⟨"miw", none, "Akoye"⟩,
  ⟨"mix", none, "Mixtepec Mixtec"⟩,
  ⟨"miy", none, "Ayutla Mixtec"⟩,
  ⟨"miz", none, "Coatzospan Mixtec"⟩,
  ⟨"mjb", none, "Makalero"⟩,
  ⟨"mjc", none, "San Juan Colorado Mixtec"⟩,
  ⟨"mjd", none, "Northwest Maidu"⟩,
  ⟨"mje", none, "Muskum"⟩,
  ⟨"mjg", none, "Tu"⟩,
  ⟨"mjh", none, "Mwera"⟩,
  ⟨"mji", none, "Kim Mun"⟩,
  ⟨"mjj", none, "Mawak"⟩,
  ⟨"mjk", none, "Matukar"⟩,
  ⟨"mjl", none, "Mandeali"⟩,
  ⟨"mjm", none, "Medebur"⟩,
  ⟨"mjn", none, "Ma"⟩,
  ⟨"mjo", none, "Malankuravan"⟩,
  ⟨"mjp", none, "Malapandaram"⟩,
  ⟨"mjq", none, "Malaryan"⟩,
  ⟨"mjr", none, "Malavedan"⟩,
  ⟨"mjs", none, "Miship"⟩,
  ⟨"mjt", none, "Sauria Paharia"⟩,
  ⟨"mju", none, "Manna-Dora"⟩,
  ⟨"mjv", none, "Mannan"⟩,
  ⟨"mjw", none, "Karbi"⟩,
  ⟨"mjx", none, "Mahali"⟩,
  ⟨"mjy", none, "Mahican"⟩,
  ⟨"mjz", none, "Majhi"⟩,
  ⟨"mka", none, "Mbre"⟩,
  ⟨"mkb", none, "Mal Paharia"⟩,
  ⟨"mkc", none, "Siliput"⟩,
  ⟨"mkd", some "mk", "Macedonian"⟩,
  ⟨"mke", none, "Mawchi"⟩,
  ⟨"mkf", none, "Miya"⟩,
  ⟨"mkg", none, "Mak"⟩,
  ⟨"mki", none, "Dhatki"⟩,
  ⟨"mkj", none, "Mokilese"⟩,
  ⟨"mkk", none, "Byep"⟩,
  ⟨"mkl", none, "Mokole"⟩,
  ⟨"mkm", none, "Moklen"⟩,
  ⟨"mkn", none, "Kupang Malay"⟩,
  ⟨"mko", none, "Mingang Doso"⟩,
  ⟨"mkp", none, "Moikodi"⟩,
  ⟨"mkq", none, "Bay Miwok"⟩,
  ⟨"mkr", none, "Malas"⟩,
  ⟨"mks", none, "Silacayoapan Mixtec"⟩,
  ⟨"mkt", none, "Vamale"⟩,
  ⟨"mku", none, "Konyanka Maninka"⟩,
  ⟨"mkv", none, "Mafea"⟩,
  ⟨"mkw", none, "Kituba"⟩,
  ⟨"mkx", none, "Kinamiging Manobo"⟩,
  ⟨"mky", none, "East Makian"⟩,
  ⟨"mkz", none, "Makasae"⟩,
  ⟨"mla", none, "Malo"⟩,
  ⟨"mlb", none, "Mbule"⟩,
  ⟨"mlc", none, "Cao Lan"⟩,
  ⟨"mle", none, "Manambu"⟩,
  ⟨"mlf", none, "Mal"⟩,
  ⟨"mlg", some "mg", "Malagasy"⟩,
  ⟨"mlh", none, "Mape"⟩,
  ⟨"mli", none, "Malimpung"⟩,
  ⟨"mlj", none, "Miltu"⟩,
  ⟨"mlk", none, "Ilwana"⟩,
  ⟨"mll", none, "Malua Bay"⟩,
  ⟨"mlm", none, "Mulam"⟩,
  ⟨"mln", none, "Malango"⟩,
  ⟨"mlo", none, "Mlomp"⟩,
  ⟨"mlp", none, "Bargam"⟩,
  ⟨"mlq", none, "Western Maninkakan"⟩,
  ⟨"mlr", none, "Vame"⟩,
  ⟨"mls", none, "Masalit"⟩,
  ⟨"mlt", some "mt", "Maltese"⟩,
  ⟨"mlu", none, "To'abaita"⟩,
  ⟨"mlv", none, "Motlav"⟩,
  ⟨"mlw", none, "Moloko"⟩,
  ⟨"mlx", none, "Malfaxal"⟩,
  ⟨"mlz", none, "Malaynon"⟩,
  ⟨"mma", none, "Mama"⟩,
  ⟨"mmb", none, "Momina"⟩,
  ⟨"mmc", none, "Michoacán Mazahua"⟩,
  ⟨"mmd", none, "Maonan"⟩,
  ⟨"mme", none, "Mae"⟩,
  ⟨"mmf", none, "Mundat"⟩,
  ⟨"mmg", none, "North Ambrym"⟩,
  ⟨"mmh", none, "Mehináku"⟩,
  ⟨"mmi", none, "Musar"⟩,
  ⟨"mmj", none, "Majhwar"⟩,
  ⟨"mmk", none, "Mukha-Dora"⟩,
  ⟨"mml", none, "Man Met"⟩,
  ⟨"mmm", none, "Maii"⟩,
  ⟨"mmn", none, "Mamanwa"⟩,
  ⟨"mmo", none, "Mangga Buang"⟩,
  ⟨"mmp", none, "Siawi"⟩,
  ⟨"mmq", none, "Musak"⟩,
  ⟨"mmr", none, "Western Xiangxi Miao"⟩,
  ⟨"mmt", none, "Malalamai"⟩,
  ⟨"mmu", none, "Mmaala"⟩,
  ⟨"mmv", none, "Miriti"⟩,
  ⟨"mmw", none, "Emae"⟩,
  ⟨"mmx", none, "Madak"⟩,
  ⟨"mmy", none, "Migaama"⟩,
  ⟨"mmz", none, "Mabaale"⟩,
  ⟨"mna", none, "Mbula"⟩,
  ⟨"mnb", none, "Muna"⟩,
  ⟨"mnc", none, "Manchu"⟩,
  ⟨"mnd", none, "Mondé"⟩,
  ⟨"mne", none, "Naba"⟩,
  ⟨"mnf", none, "Mundani"⟩,
  ⟨"mng", none, "Eastern Mnong"⟩,
  ⟨"mnh", none, "Mono"⟩,
  ⟨"mni", none, "Manipuri"⟩,
  ⟨"mnj", none, "Munji"⟩,
  ⟨"mnk", none, "Mandinka"⟩,
  ⟨"mnl", none, "Tiale"⟩,
  ⟨"mnm", none, "Mapena"⟩,
  ⟨"mnn", none, "Southern Mnong"⟩,
  ⟨"mnp", none, "Min Bei Chinese"⟩,
  ⟨"mnq", none, "Minriq"⟩,
  ⟨"mnr", none, "Mono"⟩,
  ⟨"mns", none, "Mansi"⟩,
  ⟨"mnu", none, "Mer"⟩,
  ⟨"mnv", none, "Rennell-Bellona"⟩,
  ⟨"mnw", none, "Mon"⟩,
  ⟨"mnx", none, "Manikion"⟩,
  ⟨"mny", none, "Manyawa"⟩,
  ⟨"mnz", none, "Moni"⟩,
  ⟨"moa", none, "Mwan"⟩,
  ⟨"moc", none, "Mocoví"⟩,
  ⟨"mod", none, "Mobilian"⟩,
  ⟨"moe", none, "Innu"⟩,
  ⟨"mog", none, "Mongondow"⟩,
  ⟨"moh", none, "Mohawk"⟩,
  ⟨"moi", none, "Mboi"⟩,
  ⟨"moj", none, "Monzombo"⟩,
  ⟨"mok", none, "Morori"⟩,
  ⟨"mom", none, "Mangue"⟩,
  ⟨"mon", some "mn", "Mongolian"⟩,
  ⟨"moo", none, "Monom"⟩,
  ⟨"mop", none, "Mopán Maya"⟩,
  ⟨"moq", none, "Mor"⟩,
  ⟨"mor", none, "Moro"⟩,
  ⟨"mos", none, "Mossi"⟩,
  ⟨"mot", none, "Barí"⟩,
  ⟨"mou", none, "Mogum"⟩,
  ⟨"mov", none, "Mohave"⟩,
  ⟨"mow", none, "Moi"⟩,
  ⟨"mox", none, "Molima"⟩,
  ⟨"moy", none, "Shekkacho"⟩,
  ⟨"moz", none, "Mukulu"⟩,
  ⟨"mpa", none, "Mpoto"⟩,
  ⟨"mpb", none, "Malak Malak"⟩,
  ⟨"mpc", none, "Mangarrayi"⟩,
  ⟨"mpd", none, "Machinere"⟩,
  ⟨"mpe", none, "Majang"⟩,
  ⟨"mpg", none, "Marba"⟩,
  ⟨"mph", none, "Maung"⟩,
  ⟨"mpi", none, "Mpade"⟩,
  ⟨"mpj", none, "Martu Wangka"⟩,
  ⟨"mpk", none, "Mbara"⟩,
  ⟨"mpl", none, "Middle Watut"⟩,
  ⟨"mpm", none, "Yosondúa Mixtec"⟩,
  ⟨"mpn", none, "Mindiri"⟩,
  ⟨"mpo", none, "Miu"⟩,
  ⟨"mpp", none, "Migabac"⟩,
  ⟨"mpq", none, "Matís"⟩,
  ⟨"mpr", none, "Vangunu"⟩,
  ⟨"mps", none, "Dadibi"⟩,
  ⟨"mpt", none, "Mian"⟩,
  ⟨"mpu", none, "Makuráp"⟩,
  ⟨"mpv", none, "Mungkip"⟩,
  ⟨"mpw", none, "Mapidian"⟩,
  ⟨"mpx", none, "Misima-Panaeati"⟩,
  ⟨"mpy", none, "Mapia"⟩,
  ⟨"mpz", none, "Mpi"⟩,
  ⟨"mqa", none, "Maba"⟩,
  ⟨"mqb", none, "Mbuko"⟩,
  ⟨"mqc", none, "Mangole"⟩,
  ⟨"mqe", none, "Matepi"⟩,
  ⟨"mqf", none, "Momuna"⟩,
  ⟨"mqg", none, "Kota Bangun Kutai Malay"⟩,
  ⟨"mqh", none, "Tlazoyaltepec Mixtec"⟩,
  ⟨"mqi", none, "Mariri"⟩,
  ⟨"mqj", none, "Mamasa"⟩,
  ⟨"mqk", none, "Rajah Kabunsuwan Manobo"⟩,
  ⟨"mql", none, "Mbelime"⟩,
  ⟨"mqm", none, "South Marquesan"⟩,
  ⟨"mqn", none, "Moronene"⟩,
  ⟨"mqo", none, "Modole"⟩,
  ⟨"mqp", none, "Manipa"⟩,
  ⟨"mqq", none, "Minokok"⟩,
  ⟨"mqr", none, "Mander"⟩,
  ⟨"mqs", none, "West Makian"⟩,
  ⟨"mqt", none, "Mok"⟩,
  ⟨"mqu", none, "Mandari"⟩,
  ⟨"mqv", none, "Mosimo"⟩,
  ⟨"mqw", none, "Murupi"⟩,
  ⟨"mqx", none, "Mamuju"⟩,
  ⟨"mqy", none, "Manggarai"⟩,
  ⟨"mqz", none, "Pano"⟩,
  ⟨"mra", none, "Mlabri"⟩,
  ⟨"mrb", none, "Marino"⟩,
  ⟨"mrc", none, "Maricopa"⟩,
  ⟨"mrd", none, "Western Magar"⟩,
  ⟨"mre", none, "Martha's Vineyard Sign Language"⟩,
  ⟨"mrf", none, "Elseng"⟩,
  ⟨"mrg", none, "Mising"⟩,
  ⟨"mrh", none, "Mara Chin"⟩,
  ⟨"mri", some "mi", "Maori"⟩,
  ⟨"mrj", none, "Western Mari"⟩,
  ⟨"mrk", none, "Hmwaveke"⟩,
  ⟨"mrl", none, "Mortlockese"⟩,
  ⟨"mrm", none, "Merlav"⟩,
  ⟨"mrn", none, "Cheke Holo"⟩,
  ⟨"mro", none, "Mru"⟩,
  ⟨"mrp", none, "Morouas"⟩,
  ⟨"mrq", none, "North Marquesan"⟩,
  ⟨"mrr", none, "Maria"⟩,
  ⟨"mrs", none, "Maragus"⟩,
  ⟨"mrt", none, "Marghi Central"⟩,
  ⟨"mru", none, "Mono"⟩,
  ⟨"mrv", none, "Mangareva"⟩,
  ⟨"mrw", none, "Maranao"⟩,
  ⟨"mrx", none, "Maremgi"⟩,
  ⟨"mry", none, "Mandaya"⟩,
  ⟨"mrz", none, "Marind"⟩,
  ⟨"msa", some "ms", "Malay"⟩,
  ⟨"msb", none, "Masbatenyo"⟩,
  ⟨"msc", none, "Sankaran Maninka"⟩,
  ⟨"msd", none, "Yucatec Maya Sign Language"⟩,
  ⟨"mse", none, "Musey"⟩,
  ⟨"msf", none, "Mekwei"⟩,
  ⟨"msg", none, "Moraid"⟩,
  ⟨"msh", none, "Masikoro Malagasy"⟩,
  ⟨"msi", none, "Sabah Malay"⟩,
  ⟨"msj", none, "Ma"⟩,
  ⟨"msk", none, "Mansaka"⟩,
  ⟨"msl", none, "Molof"⟩,
  ⟨"msm", none, "Agusan Manobo"⟩,
  ⟨"msn", none, "Vurës"⟩,
  ⟨"mso", none, "Mombum"⟩,
  ⟨"msp", none, "Maritsauá"⟩,
  ⟨"msq", none, "Caac"⟩,
  ⟨"msr", none, "Mongolian Sign Language"⟩,
  ⟨"mss", none, "West Masela"⟩,
  ⟨"msu", none, "Musom"⟩,
  ⟨"msv", none, "Maslam"⟩,
  ⟨"msw", none, "Mansoanka"⟩,
  ⟨"msx", none, "Moresada"⟩,
  ⟨"msy", none, "Aruamu"⟩,
  ⟨"msz", none, "Momare"⟩,
  ⟨"mta", none, "Cotabato Manobo"⟩,
  ⟨"mtb", none, "Anyin Morofo"⟩,
  ⟨"mtc", none, "Munit"⟩,
  ⟨"mtd", none, "Mualang"⟩,
  ⟨"mte", none, "Mono"⟩,
  ⟨"mtf", none, "Murik"⟩,
  ⟨"mtg", none, "Una"⟩,
  ⟨"mth", none, "Munggui"⟩,
  ⟨"mti", none, "Maiwa"⟩,
  ⟨"mtj", none, "Moskona"⟩,
  ⟨"mtk", none, "Mbe'"⟩,
  ⟨"mtl", none, "Montol"⟩,
  ⟨"mtm", none, "Mator"⟩,
  ⟨"mtn", none, "Matagalpa"⟩,
  ⟨"mto", none, "Totontepec Mixe"⟩,
  ⟨"mtp", none, "Wichí Lhamtés Nocten"⟩,
  ⟨"mtq", none, "Muong"⟩,
  ⟨"mtr", none, "Mewari"⟩,
  ⟨"mts", none, "Yora"⟩,
  ⟨"mtt", none, "Mota"⟩,
  ⟨"mtu", none, "Tututepec Mixtec"⟩,
  ⟨"mtv", none, "Asaro'o"⟩,
  ⟨"mtw", none, "Southern Binukidnon"⟩,
  ⟨"mtx", none, "Tidaá Mixtec"⟩,
  ⟨"mty", none, "Nabi"⟩,
  ⟨"mua", none, "Mundang"⟩,
  ⟨"mub", none, "Mubi"⟩,
  ⟨"muc", none, "Ajumbu"⟩,
  ⟨"mud", none, "Mednyj Aleut"⟩,
  ⟨"mue", none, "Media Lengua"⟩,
  ⟨"mug", none, "Musgu"⟩,
  ⟨"muh", none, "Mündü"⟩,
  ⟨"mui", none, "Musi"⟩,
  ⟨"muj", none, "Mabire"⟩,
  ⟨"muk", none, "Mugom"⟩,
  ⟨"mul", none, "Multiple languages"⟩,
  ⟨"mum", none, "Maiwala"⟩,
  ⟨"muo", none, "Nyong"⟩,
  ⟨"mup", none, "Malvi"⟩,
  ⟨"muq", none, "Eastern Xiangxi Miao"⟩,
  ⟨"mur", none, "Murle"⟩,
  ⟨"mus", none, "Creek"⟩,
  ⟨"mut", none, "Western Muria"⟩,
  ⟨"muu", none, "Yaaku"⟩,
  ⟨"muv", none, "Muthuvan"⟩,
  ⟨"mux", none, "Bo-Ung"⟩,
  ⟨"muy", none, "Muyang"⟩,
  ⟨"muz", none, "Mursi"⟩,
  ⟨"mva", none, "Manam"⟩,
  ⟨"mvb", none, "Mattole"⟩,
  ⟨"mvd", none, "Mamboru"⟩,
  ⟨"mve", none, "Marwari"⟩,
  ⟨"mvf", none, "Peripheral Mongolian"⟩,
  ⟨"mvg", none, "Yucuañe Mixtec"⟩,
  ⟨"mvh", none, "Mulgi"⟩,
  ⟨"mvi", none, "Miyako"⟩,
  ⟨"mvk", none, "Mekmek"⟩,
  ⟨"mvl", none, "Mbara"⟩,
  ⟨"mvm", none, "Muya"⟩,
  ⟨"mvn", none, "Minaveha"⟩,
  ⟨"mvo", none, "Marovo"⟩,
  ⟨"mvp", none, "Duri"⟩,
  ⟨"mvq", none, "Moere"⟩,
  ⟨"mvr", none, "Marau"⟩,
  ⟨"mvs", none, "Massep"⟩,
  ⟨"mvt", none, "Mpotovoro"⟩,
  ⟨"mvu", none, "Marfa"⟩,
  ⟨"mvv", none, "Tagal Murut"⟩,
  ⟨"mvw", none, "Machinga"⟩,
  ⟨"mvx", none, "Meoswar"⟩,
  ⟨"mvy", none, "Indus Kohistani"⟩,
  ⟨"mvz", none, "Mesqan"⟩,
  ⟨"mwa", none, "Mwatebu"⟩,
  ⟨"mwb", none, "Juwal"⟩,
  ⟨"mwc", none, "Are"⟩,
  ⟨"mwe", none, "Mwera"⟩,
  ⟨"mwf", none, "Murrinh-Patha"⟩,
  ⟨"mwg", none, "Aiklep"⟩,
  ⟨"mwh", none, "Mouk-Aria"⟩,
  ⟨"mwi", none, "Labo"⟩,
  ⟨"mwk", none, "Kita Maninkakan"⟩,
  ⟨"mwl", none, "Mirandese"⟩,
  ⟨"mwm", none, "Sar"⟩,
  ⟨"mwn", none, "Nyamwanga"⟩,
  ⟨"mwo", none, "Central Maewo"⟩,
  ⟨"mwp", none, "Kala Lagaw Ya"⟩,
  ⟨"mwq", none, "Mün Chin"⟩,
  ⟨"mwr", none, "Marwari"⟩,
  ⟨"mws", none, "Mwimbi-Muthambi"⟩,
  ⟨"mwt", none, "Moken"⟩,
  ⟨"mwu", none, "Mittu"⟩,
  ⟨"mwv", none, "Mentawai"⟩,
  ⟨"mww", none, "Hmong Daw"⟩,
  ⟨"mwz", none, "Moingi"⟩,
  ⟨"mxa", none, "Northwest Oaxaca Mixtec"⟩,
  ⟨"mxb", none, "Tezoatlán Mixtec"⟩,
  ⟨"mxc", none, "Manyika"⟩,
  ⟨"mxd", none, "Modang"⟩,
  ⟨"mxe", none, "Mele-Fila"⟩,
  ⟨"mxf", none, "Malgbe"⟩,
  ⟨"mxg", none, "Mbangala"⟩,
  ⟨"mxh", none, "Mvuba"⟩,
  ⟨"mxi", none, "Mozarabic"⟩,
  ⟨"mxj", none, "Miju-Mishmi"⟩,
  ⟨"mxk", none, "Monumbo"⟩,
  ⟨"mxl", none, "Maxi Gbe"⟩,
  ⟨"mxm", none, "Meramera"⟩,
  ⟨"mxn", none, "Moi"⟩,
  ⟨"mxo", none, "Mbowe"⟩,
  ⟨"mxp", none, "Tlahuitoltepec Mixe"⟩,
  ⟨"mxq", none, "Juquila Mixe"⟩,
  ⟨"mxr", none, "Murik"⟩,
  ⟨"mxs", none, "Huitepec Mixtec"⟩,
  ⟨"mxt", none, "Jamiltepec Mixtec"⟩,
  ⟨"mxu", none, "Mada"⟩,
  ⟨"mxv", none, "Metlatónoc Mixtec"⟩,
  ⟨"mxw", none, "Namo"⟩,
  ⟨"mxx", none, "Mahou"⟩,
  ⟨"mxy", none, "Southeastern Nochixtlán Mixtec"⟩,
  ⟨"mxz", none, "Central Masela"⟩,
  ⟨"mya", some "my", "Burmese"⟩,
  ⟨"myb", none, "Mbay"⟩,
  ⟨"mye", none, "Myene"⟩,
  ⟨"myf", none, "Bambassi"⟩,
  ⟨"myg", none, "Manta"⟩,
  ⟨"myh", none, "Makah"⟩,
  ⟨"myj", none, "Mangayat"⟩,
  ⟨"myk", none, "Mamara Senoufo"⟩,
  ⟨"myl", none, "Moma"⟩,
  ⟨"mym", none, "Me'en"⟩,
  ⟨"myo", none, "Anfillo"⟩,
  ⟨"myp", none, "Pirahã"⟩,
  ⟨"myr", none, "Muniche"⟩,
  ⟨"mys", none, "Mesmes"⟩,
  ⟨"myu", none, "Mundurukú"⟩,
  ⟨"myv", none, "Erzya"⟩,
  ⟨"myw", none, "Muyuw"⟩,
  ⟨"myx", none, "Masaaba"⟩,
  ⟨"myy", none, "Macuna"⟩,
  ⟨"myz", none, "Classical Mandaic"⟩,
  ⟨"mza", none, "Santa María Zacatepec Mixtec"⟩,
  ⟨"mzb", none, "Tumzabt"⟩,
  ⟨"mzc", none, "Madagascar Sign Language"⟩,
  ⟨"mzd", none, "Malimba"⟩,
  ⟨"mze", none, "Morawa"⟩,
  ⟨"mzg", none, "Monastic Sign Language"⟩,
  ⟨"mzh", none, "Wichí Lhamtés Güisnay"⟩,
  ⟨"mzi", none, "Ixcatlán Mazatec"⟩,
  ⟨"mzj", none, "Manya"⟩,
  ⟨"mzk", none, "Nigeria Mambila"⟩,
  ⟨"mzl", none, "Mazatlán Mixe"⟩,
  ⟨"mzm", none, "Mumuye"⟩,
  ⟨"mzn", none, "Mazanderani"⟩,
  ⟨"mzo", none, "Matipuhy"⟩,
  ⟨"mzp", none, "Movima"⟩,
  ⟨"mzq", none, "Mori Atas"⟩,
  ⟨"mzr", none, "Marúbo"⟩,
  ⟨"mzs", none, "Macanese"⟩,
  ⟨"mzt", none, "Mintil"⟩,
  ⟨"mzu", none, "Inapang"⟩,
  ⟨"mzv", none, "Manza"⟩,
  ⟨"mzw", none, "Deg"⟩,
  ⟨"mzx", none, "Mawayana"⟩,
  ⟨"mzy", none, "Mozambican Sign Language"⟩,
  ⟨"mzz", none, "Maiadomu"⟩]

/-- The languages whose three-letter code starts with `n`, in code order. -/
def entriesN : List Entry := [
  ⟨"naa", none, "Namla"⟩,
  ⟨"nab", none, "Southern Nambikuára"⟩,
  ⟨"nac", none, "Narak"⟩,
  ⟨"nae", none, "Naka'ela"⟩,
  ⟨"naf", none, "Nabak"⟩,
  ⟨"nag", none, "Naga Pidgin"⟩,
  ⟨"naj", none, "Nalu"⟩,
  ⟨"nak", none, "Nakanai"⟩,
  ⟨"nal", none, "Nalik"⟩,
  ⟨"nam", none, "Ngan'gityemerri"⟩,
  ⟨"nan", none, "Min Nan Chinese"⟩,
  ⟨"nao", none, "Naaba"⟩,
  ⟨"nap", none, "Neapolitan"⟩,
  ⟨"naq", none, "Khoekhoe"⟩,
  ⟨"nar", none, "Iguta"⟩,
  ⟨"nas", none, "Naasioi"⟩,
  ⟨"nat", none, "Ca̱hungwa̱rya̱"⟩,
  ⟨"nau", some "na", "Nauru"⟩,
  ⟨"nav", some "nv", "Navajo"⟩,
  ⟨"naw", none, "Nawuri"⟩,
  ⟨"nax", none, "Nakwi"⟩,
  ⟨"nay", none, "Ngarrindjeri"⟩,
  ⟨"naz", none, "Coatepec Nahuatl"⟩,
  ⟨"nba", none, "Nyemba"⟩,
  ⟨"nbb", none, "Ndoe"⟩,
  ⟨"nbc", none, "Chang Naga"⟩,
  ⟨"nbd", none, "Ngbinda"⟩,
  ⟨"nbe", none, "Konyak Naga"⟩,
  ⟨"nbg", none, "Nagarchal"⟩,
  ⟨"nbh", none, "Ngamo"⟩,
  ⟨"nbi", none, "Mao Naga"⟩,
  ⟨"nbj", none, "Ngarinyman"⟩,
  ⟨"nbk", none, "Nake"⟩,
  ⟨"nbl", some "nr", "South Ndebele"⟩,
  ⟨"nbm", none, "Ngbaka Ma'bo"⟩,
  ⟨"nbn", none, "Kuri"⟩,
  ⟨"nbo", none, "Nkukoli"⟩,
  ⟨"nbp", none, "Nnam"⟩,
  ⟨"nbq", none, "Nggem"⟩,
  ⟨"nbr", none, "Numana"⟩,
  ⟨"nbs", none, "Namibian Sign Language"⟩,
  ⟨"nbt", none, "Na"⟩,
  ⟨"nbu", none, "Rongmei Naga"⟩,
  ⟨"nbv", none, "Ngamambo"⟩,
  ⟨"nbw", none, "Southern Ngbandi"⟩,
  ⟨"nby", none, "Ningera"⟩,
  ⟨"nca", none, "Iyo"⟩,
  ⟨"ncb", none, "Central Nicobarese"⟩,
  ⟨"ncc", none, "Ponam"⟩,
  ⟨"ncd", none, "Nachering"⟩,
  ⟨"nce", none, "Yale"⟩,
  ⟨"ncf", none, "Notsi"⟩,
  ⟨"ncg", none, "Nisga'a"⟩,
  ⟨"nch", none, "Central Huasteca Nahuatl"⟩,
  ⟨"nci", none, "Classical Nahuatl"⟩,
  ⟨"ncj", none, "Northern Puebla Nahuatl"⟩,
  ⟨"nck", none, "Na-kara"⟩,
  ⟨"ncl", none, "Michoacán Nahuatl"⟩,
  ⟨"ncm", none, "Nambo"⟩,
  ⟨"ncn", none, "Nauna"⟩,
  ⟨"nco", none, "Sibe"⟩,
  ⟨"ncq", none, "Northern Katang"⟩,
  ⟨"ncr", none, "Ncane"⟩,
  ⟨"ncs", none, "Nicaraguan Sign Language"⟩,
  ⟨"nct", none, "Chothe Naga"⟩,
  ⟨"ncu", none, "Chumburung"⟩,
  ⟨"ncx", none, "Central Puebla Nahuatl"⟩,
  ⟨"ncz", none, "Natchez"⟩,
  ⟨"nda", none, "Ndasa"⟩,
  ⟨"ndb", none, "Kenswei Nsei"⟩,
  ⟨"ndc", none, "Ndau"⟩,
  ⟨"ndd", none, "Nde-Nsele-Nta"⟩,
  ⟨"nde", some "nd", "North Ndebele"⟩,
  ⟨"ndf", none, "Nadruvian"⟩,
  ⟨"ndg", none, "Ndengereko"⟩,
  ⟨"ndh", none, "Ndali"⟩,
  ⟨"ndi", none, "Samba Leko"⟩,
  ⟨"ndj", none, "Ndamba"⟩,
  ⟨"ndk", none, "Ndaka"⟩,
  ⟨"ndl", none, "Ndolo"⟩,
  ⟨"ndm", none, "Ndam"⟩,
  ⟨"ndn", none, "Ngundi"⟩,
  ⟨"ndo", some "ng", "Ndonga"⟩,
  ⟨"ndp", none, "Ndo"⟩,
  ⟨"ndq", none, "Ndombe"⟩,
  ⟨"ndr", none, "Ndoola"⟩,
  ⟨"nds", none, "Low German"⟩,
  ⟨"ndt", none, "Ndunga"⟩,
  ⟨"ndu", none, "Dugun"⟩,
  ⟨"ndv", none, "Ndut"⟩,
  ⟨"ndw", none, "Ndobo"⟩,
  ⟨"ndx", none, "Nduga"⟩,
  ⟨"ndy", none, "Lutos"⟩,
  ⟨"ndz", none, "Ndogo"⟩,
  ⟨"nea", none, "Eastern Ngad'a"⟩,
  ⟨"neb", none, "Toura"⟩,
  ⟨"nec", none, "Nedebang"⟩,
  ⟨"ned", none, "Nde-Gbite"⟩,
  ⟨"nee", none, "Nêlêmwa-Nixumwak"⟩,
  ⟨"nef", none, "Nefamese"⟩,
  ⟨"neg", none, "Negidal"⟩,
  ⟨"neh", none, "Nyenkha"⟩,
  ⟨"nei", none, "Neo-Hittite"⟩,
  ⟨"nej", none, "Neko"⟩,
  ⟨"nek", none, "Neku"⟩,
  ⟨"nem", none, "Nemi"⟩,
  ⟨"nen", none, "Nengone"⟩,
  ⟨"neo", none, "Ná-Meo"⟩,
  ⟨"nep", some "ne", "Nepali"⟩,
  ⟨"neq", none, "North Central Mixe"⟩,
  ⟨"ner", none, "Yahadian"⟩,
  ⟨"nes", none, "Bhoti Kinnauri"⟩,
  ⟨"net", none, "Nete"⟩,
  ⟨"neu", none, "Neo"⟩,
  ⟨"nev", none, "Nyaheun"⟩,
  ⟨"new", none, "Newari"⟩,
  ⟨"nex", none, "Neme"⟩,
  ⟨"ney", none, "Neyo"⟩,
  ⟨"nez", none, "Nez Perce"⟩,
  ⟨"nfa", none, "Dhao"⟩,
  ⟨"nfd", none, "Ahwai"⟩,
  ⟨"nfl", none, "Ayiwo"⟩,
  ⟨"nfr", none, "Nafaanra"⟩,
  ⟨"nfu", none, "Mfumte"⟩,
  ⟨"nga", none, "Ngbaka"⟩,
  ⟨"ngb", none, "Northern Ngbandi"⟩,
  ⟨"ngc", none, "Ngombe"⟩,
  ⟨"ngd", none, "Ngando"⟩,
  ⟨"nge", none, "Ngemba"⟩,
  ⟨"ngg", none, "Ngbaka Manza"⟩,
  ⟨"ngh", none, "Nǁng"⟩,
  ⟨"ngi", none, "Ngizim"⟩,
  ⟨"ngj", none, "Ngie"⟩,
  ⟨"ngk", none, "Dalabon"⟩,
  ⟨"ngl", none, "Lomwe"⟩,
  ⟨"ngm", none, "Ngatik Men's Creole"⟩,
  ⟨"ngn", none, "Ngwo"⟩,
  ⟨"ngo", none, "Ngoni"⟩,
  ⟨"ngp", none, "Ngulu"⟩,
  ⟨"ngq", none, "Ngurimi"⟩,
  ⟨"ngr", none, "Engdewu"⟩,
  ⟨"ngs", none, "Gvoko"⟩,
  ⟨"ngt", none, "Kriang"⟩,
  ⟨"ngu", none, "Guerrero Nahuatl"⟩,
  ⟨"ngv", none, "Nagumi"⟩,
  ⟨"ngw", none, "Ngwaba"⟩,
  ⟨"ngx", none, "Nggwahyi"⟩,
  ⟨"ngy", none, "Tibea"⟩,
  ⟨"ngz", none, "Ngungwel"⟩,
  ⟨"nha", none, "Nhanda"⟩,
  ⟨"nhb", none, "Beng"⟩,
  ⟨"nhc", none, "Tabasco Nahuatl"⟩,
  ⟨"nhd", none, "Chiripá"⟩,
  ⟨"nhe", none, "Eastern Huasteca Nahuatl"⟩,
  ⟨"nhf", none, "Nhuwala"⟩,
  ⟨"nhg", none, "Tetelcingo Nahuatl"⟩,
  ⟨"nhh", none, "Nahari"⟩,
  ⟨"nhi", none, "Zacatlán-Ahuacatlán-Tepetzintla Nahuatl"⟩,
  ⟨"nhk", none, "Isthmus-Cosoleacaque Nahuatl"⟩,
  ⟨"nhm", none, "Morelos Nahuatl"⟩,
  ⟨"nhn", none, "Central Nahuatl"⟩,
  ⟨"nho", none, "Takuu"⟩,
  ⟨"nhp", none, "Isthmus-Pajapan Nahuatl"⟩,
  ⟨"nhq", none, "Huaxcaleca Nahuatl"⟩,
  ⟨"nhr", none, "Naro"⟩,
  ⟨"nht", none, "Ometepec Nahuatl"⟩,
  ⟨"nhu", none, "Noone"⟩,
  ⟨"nhv", none, "Temascaltepec Nahuatl"⟩,
  ⟨"nhw", none, "Western Huasteca Nahuatl"⟩,
  ⟨"nhx", none, "Isthmus-Mecayapan Nahuatl"⟩,
  ⟨"nhy", none, "Northern Oaxaca Nahuatl"⟩,
  ⟨"nhz", none, "Santa María La Alta Nahuatl"⟩,
  ⟨"nia", none, "Nias"⟩,
  ⟨"nib", none, "Nakame"⟩,
  ⟨"nid", none, "Ngandi"⟩,
  ⟨"nie", none, "Niellim"⟩,
  ⟨"nif", none, "Nek"⟩,
  ⟨"nig", none, "Ngalakgan"⟩,
  ⟨"nih", none, "Nyiha"⟩,
  ⟨"nii", none, "Nii"⟩,
  ⟨"nij", none, "Ngaju"⟩,
  ⟨"nik", none, "Southern Nicobarese"⟩,
  ⟨"nil", none, "Nila"⟩,
  ⟨"nim", none, "Nilamba"⟩,
  ⟨"nin", none, "Ninzo"⟩,
  ⟨"nio", none, "Nganasan"⟩,
  ⟨"niq", none, "Nandi"⟩,
  ⟨"nir", none, "Nimboran"⟩,
  ⟨"nis", none, "Nimi"⟩,
  ⟨"nit", none, "Southeastern Kolami"⟩,
  ⟨"niu", none, "Niuean"⟩,
  ⟨"niv", none, "Gilyak"⟩,
  ⟨"niw", none, "Nimo"⟩,
  ⟨"nix", none, "Hema"⟩,
  ⟨"niy", none, "Ngiti"⟩,
  ⟨"niz", none, "Ningil"⟩,
  ⟨"nja", none, "Nzanyi"⟩,
  ⟨"njb", none, "Nocte Naga"⟩,
  ⟨"njd", none, "Ndonde Hamba"⟩,
  ⟨"njh", none, "Lotha Naga"⟩,
  ⟨"nji", none, "Gudanji"⟩,
  ⟨"njj", none, "Njen"⟩,
  ⟨"njl", none, "Njalgulgule"⟩,
  ⟨"njm", none, "Angami Naga"⟩,
  ⟨"njn", none, "Liangmai Naga"⟩,
  ⟨"njo", none, "Ao Naga"⟩,
  ⟨"njr", none, "Njerep"⟩,
  ⟨"njs", none, "Nisa"⟩,
  ⟨"njt", none, "Ndyuka-Trio Pidgin"⟩,
  ⟨"nju", none, "Ngadjunmaya"⟩,
  ⟨"njx", none, "Kunyi"⟩,
  ⟨"njy", none, "Njyem"⟩,
  ⟨"njz", none, "Nyishi"⟩,
  ⟨"nka", none, "Nkoya"⟩,
  ⟨"nkb", none, "Khoibu Naga"⟩,
  ⟨"nkc", none, "Nkongho"⟩,
  ⟨"nkd", none, "Koireng"⟩,
  ⟨"nke", none, "Duke"⟩,
  ⟨"nkf", none, "Inpui Naga"⟩,
  ⟨"nkg", none, "Nekgini"⟩,
  ⟨"nkh", none, "Khezha Naga"⟩,
  ⟨"nki", none, "Thangal Naga"⟩,
  ⟨"nkj", none, "Nakai"⟩,
  ⟨"nkk", none, "Nokuku"⟩,
  ⟨"nkm", none, "Namat"⟩,
  ⟨"nkn", none, "Nkangala"⟩,
  ⟨"nko", none, "Nkonya"⟩,
  ⟨"nkp", none, "Niuatoputapu"⟩,
  ⟨"nkq", none, "Nkami"⟩,
  ⟨"nkr", none, "Nukuoro"⟩,
  ⟨"nks", none, "North Asmat"⟩,
  ⟨"nkt", none, "Nyika"⟩,
  ⟨"nku", none, "Bouna Kulango"⟩,
  ⟨"nkv", none, "Nyika"⟩,
  ⟨"nkw", none, "Nkutu"⟩,
  ⟨"nkx", none, "Nkoroo"⟩,
  ⟨"nkz", none, "Nkari"⟩,
  ⟨"nla", none, "Ngombale"⟩,
  ⟨"nlc", none, "Nalca"⟩,
  ⟨"nld", some "nl", "Dutch"⟩,
  ⟨"nle", none, "East Nyala"⟩,
  ⟨"nlg", none, "Gela"⟩,
  ⟨"nli", none, "Grangali"⟩,
  ⟨"nlj", none, "Nyali"⟩,
  ⟨"nlk", none, "Ninia Yali"⟩,
  ⟨"nll", none, "Nihali"⟩,
  ⟨"nlm", none, "Mankiyali"⟩,
  ⟨"nlo", none, "Ngul"⟩,
  ⟨"nlq", none, "Lao Naga"⟩,
  ⟨"nlu", none, "Nchumbulu"⟩,
  ⟨"nlv", none, "Orizaba Nahuatl"⟩,
  ⟨"nlw", none, "Walangama"⟩,
  ⟨"nlx", none, "Nahali"⟩,
  ⟨"nly", none, "Nyamal"⟩,
  ⟨"nlz", none, "Nalögo"⟩,
  ⟨"nma", none, "Maram Naga"⟩,
  ⟨"nmb", none, "Big Nambas"⟩,
  ⟨"nmc", none, "Ngam"⟩,
  ⟨"nmd", none, "Ndumu"⟩,
  ⟨"nme", none, "Mzieme Naga"⟩,
  ⟨"nmf", none, "Tangkhul Naga"⟩,
  ⟨"nmg", none, "Kwasio"⟩,
  ⟨"nmh", none, "Monsang Naga"⟩,
  ⟨"nmi", none, "Nyam"⟩,
  ⟨"nmj", none, "Ngombe"⟩,
  ⟨"nmk", none, "Namakura"⟩,
  ⟨"nml", none, "Ndemli"⟩,
  ⟨"nmm", none, "Manangba"⟩,
  ⟨"nmn", none, "ǃXóõ"⟩,
  ⟨"nmo", none, "Moyon Naga"⟩,
  ⟨"nmp", none, "Nimanbur"⟩,
  ⟨"nmq", none, "Nambya"⟩,
  ⟨"nmr", none, "Nimbari"⟩,
  ⟨"nms", none, "Letemboi"⟩,
  ⟨"nmt", none, "Namonuito"⟩,
  ⟨"nmu", none, "Northeast Maidu"⟩,
  ⟨"nmv", none, "Ngamini"⟩,
  ⟨"nmw", none, "Nimoa"⟩,
  ⟨"nmx", none, "Nama"⟩,
  ⟨"nmy", none, "Namuyi"⟩,
  ⟨"nmz", none, "Nawdm"⟩,
  ⟨"nna", none, "Nyangumarta"⟩,
  ⟨"nnb", none, "Nande"⟩,
  ⟨"nnc", none, "Nancere"⟩,
  ⟨"nnd", none, "West Ambae"⟩,
  ⟨"nne", none, "Ngandyera"⟩,
  ⟨"nnf", none, "Ngaing"⟩,
  ⟨"nng", none, "Maring Naga"⟩,
  ⟨"nnh", none, "Ngiemboon"⟩,
  ⟨"nni", none, "North Nuaulu"⟩,
  ⟨"nnj", none, "Nyangatom"⟩,
  ⟨"nnk", none, "Nankina"⟩,
  ⟨"nnl", none, "Northern Rengma Naga"⟩,
  ⟨"nnm", none, "Namia"⟩,
  ⟨"nnn", none, "Ngete"⟩,
  ⟨"nno", some "nn", "Norwegian Nynorsk"⟩,
  ⟨"nnp", none, "Wancho Naga"⟩,
  ⟨"nnq", none, "Ngindo"⟩,
  ⟨"nnr", none, "Narungga"⟩,
  ⟨"nnt", none, "Nanticoke"⟩,
  ⟨"nnu", none, "Dwang"⟩,
  ⟨"nnv", none, "Nugunu"⟩,
  ⟨"nnw", none, "Southern Nuni"⟩,
  ⟨"nny", none, "Nyangga"⟩,
  ⟨"nnz", none, "Nda'nda'"⟩,
  ⟨"noa", none, "Woun Meu"⟩,
  ⟨"nob", some "nb", "Norwegian Bokmål"⟩,
  ⟨"noc", none, "Nuk"⟩,
  ⟨"nod", none, "Northern Thai"⟩,
  ⟨"noe", none, "Nimadi"⟩,
  ⟨"nof", none, "Nomane"⟩,
  ⟨"nog", none, "Nogai"⟩,
  ⟨"noh", none, "Nomu"⟩,
  ⟨"noi", none, "Noiri"⟩,
  ⟨"noj", none, "Nonuya"⟩,
  ⟨"nok", none, "Nooksack"⟩,
  ⟨"nol", none, "Nomlaki"⟩,
  ⟨"non", none, "Old Norse"⟩,
  ⟨"nop", none, "Numanggang"⟩,
  ⟨"noq", none, "Ngongo"⟩,
  ⟨"nor", some "no", "Norwegian"⟩,
  ⟨"nos", none, "Eastern Nisu"⟩,
  ⟨"not", none, "Nomatsiguenga"⟩,
  ⟨"nou", none, "Ewage-Notu"⟩,
  ⟨"nov", none, "Novial"⟩,
  ⟨"now", none, "Nyambo"⟩,
  ⟨"noy", none, "Noy"⟩,
  ⟨"noz", none, "Nayi"⟩,
  ⟨"npa", none, "Nar Phu"⟩,
  ⟨"npb", none, "Nupbikha"⟩,
  ⟨"npg", none, "Ponyo-Gongwang Naga"⟩,
  ⟨"nph", none, "Phom Naga"⟩,
  ⟨"npi", none, "Nepali"⟩,
  ⟨"npl", none, "Southeastern Puebla Nahuatl"⟩,
  ⟨"npn", none, "Mondropolon"⟩,
  ⟨"npo", none, "Pochuri Naga"⟩,
  ⟨"nps", none, "Nipsan"⟩,
  ⟨"npu", none, "Puimei Naga"⟩,
  ⟨"npx", none, "Noipx"⟩,
  ⟨"npy", none, "Napu"⟩,
  ⟨"nqg", none, "Southern Nago"⟩,
  ⟨"nqk", none, "Kura Ede Nago"⟩,
  ⟨"nql", none, "Ngendelengo"⟩,
  ⟨"nqm", none, "Ndom"⟩,
  ⟨"nqn", none, "Nen"⟩,
  ⟨"nqo", none, "N'Ko"⟩,
  ⟨"nqq", none, "Kyan-Karyaw Naga"⟩,
  ⟨"nqt", none, "Nteng"⟩,
  ⟨"nqy", none, "Akyaung Ari Naga"⟩,
  ⟨"nra", none, "Ngom"⟩,
  ⟨"nrb", none, "Nara"⟩,
  ⟨"nrc", none, "Noric"⟩,
  ⟨"nre", none, "Southern Rengma Naga"⟩,
  ⟨"nrf", none, "Jèrriais"⟩,
  ⟨"nrg", none, "Narango"⟩,
  ⟨"nri", none, "Chokri Naga"⟩,
  ⟨"nrk", none, "Ngarla"⟩,
  ⟨"nrl", none, "Ngarluma"⟩,
  ⟨"nrm", none, "Narom"⟩,
  ⟨"nrn", none, "Norn"⟩,
  ⟨"nrp", none, "North Picene"⟩,
  ⟨"nrr", none, "Norra"⟩,
  ⟨"nrt", none, "Northern Kalapuya"⟩,
  ⟨"nru", none, "Narua"⟩,
  ⟨"nrx", none, "Ngurmbur"⟩,
  ⟨"nrz", none, "Lala"⟩,
  ⟨"nsa", none, "Sangtam Naga"⟩,
  ⟨"nsb", none, "Lower Nossob"⟩,
  ⟨"nsc", none, "Nshi"⟩,
  ⟨"nsd", none, "Southern Nisu"⟩,
  ⟨"nse", none, "Nsenga"⟩,
  ⟨"nsf", none, "Northwestern Nisu"⟩,
  ⟨"nsg", none, "Ngasa"⟩,
  ⟨"nsh", none, "Ngoshie"⟩,
  ⟨"nsi", none, "Nigerian Sign Language"⟩,
  ⟨"nsk", none, "Naskapi"⟩,
  ⟨"nsl", none, "Norwegian Sign Language"⟩,
  ⟨"nsm", none, "Sumi Naga"⟩,
  ⟨"nsn", none, "Nehan"⟩,
  ⟨"nso", none, "Pedi"⟩,
  ⟨"nsp", none, "Nepalese Sign Language"⟩,
  ⟨"nsq", none, "Northern Sierra Miwok"⟩,
  ⟨"nsr", none, "Maritime Sign Language"⟩,
  ⟨"nss", none, "Nali"⟩,
  ⟨"nst", none, "Tase Naga"⟩,
  ⟨"nsu", none, "Sierra Negra Nahuatl"⟩,
  ⟨"nsv", none, "Southwestern Nisu"⟩,
  ⟨"nsw", none, "Navut"⟩,
  ⟨"nsx", none, "Nsongo"⟩,
  ⟨"nsy", none, "Nasal"⟩,
  ⟨"nsz", none, "Nisenan"⟩,
  ⟨"ntd", none, "Northern Tidung"⟩,
  ⟨"nte", none, "Nathembo"⟩,
  ⟨"ntg", none, "Ngantangarra"⟩,
  ⟨"nti", none, "Natioro"⟩,
  ⟨"ntj", none, "Ngaanyatjarra"⟩,
  ⟨"ntk", none, "Ikoma-Nata-Isenye"⟩,
  ⟨"ntm", none, "Nateni"⟩,
  ⟨"nto", none, "Ntomba"⟩,
  ⟨"ntp", none, "Northern Tepehuan"⟩,
  ⟨"ntr", none, "Delo"⟩,
  ⟨"ntu", none, "Natügu"⟩,
  ⟨"ntw", none, "Nottoway"⟩,
  ⟨"ntx", none, "Tangkhul Naga"⟩,
  ⟨"nty", none, "Mantsi"⟩,
  ⟨"ntz", none, "Natanzi"⟩,
  ⟨"nua", none, "Yuanga"⟩,
  ⟨"nuc", none, "Nukuini"⟩,
  ⟨"nud", none, "Ngala"⟩,
  ⟨"nue", none, "Ngundu"⟩,
  ⟨"nuf", none, "Nusu"⟩,
  ⟨"nug", none, "Nungali"⟩,
  ⟨"nuh", none, "Ndunda"⟩,
  ⟨"nui", none, "Ngumbi"⟩,
  ⟨"nuj", none, "Nyole"⟩,
  ⟨"nuk", none, "Nuu-chah-nulth"⟩,
  ⟨"nul", none, "Nusa Laut"⟩,
  ⟨"num", none, "Niuafo'ou"⟩,
  ⟨"nun", none, "Anong"⟩,
  ⟨"nuo", none, "Nguôn"⟩,
  ⟨"nup", none, "Nupe-Nupe-Tako"⟩,
  ⟨"nuq", none, "Nukumanu"⟩,
  ⟨"nur", none, "Nukuria"⟩,
  ⟨"nus", none, "Nuer"⟩,
  ⟨"nut", none, "Nung"⟩,
  ⟨"nuu", none, "Ngbundu"⟩,
  ⟨"nuv", none, "Northern Nuni"⟩,
  ⟨"nuw", none, "Nguluwan"⟩,
  ⟨"nux", none, "Mehek"⟩,
  ⟨"nuy", none, "Nunggubuyu"⟩,
  ⟨"nuz", none, "Tlamacazapa Nahuatl"⟩,
  ⟨"nvh", none, "Nasarian"⟩,
  ⟨"nvm", none, "Namiae"⟩,
  ⟨"nvo", none, "Nyokon"⟩,
  ⟨"nwa", none, "Nawathinehena"⟩,
  ⟨"nwb", none, "Nyabwa"⟩,
  ⟨"nwc", none, "Classical Newari"⟩,
  ⟨"nwe", none, "Ngwe"⟩,
  ⟨"nwg", none, "Ngayawung"⟩,
  ⟨"nwi", none, "Southwest Tanna"⟩,
  ⟨"nwm", none, "Nyamusa-Molo"⟩,
  ⟨"nwo", none, "Nauo"⟩,
  ⟨"nwr", none, "Nawaru"⟩,
  ⟨"nwx", none, "Middle Newar"⟩,
  ⟨"nwy", none, "Nottoway-Meherrin"⟩,
  ⟨"nxa", none, "Nauete"⟩,
  ⟨"nxd", none, "Ngando"⟩,
  ⟨"nxe", none, "Nage"⟩,
  ⟨"nxg", none, "Ngad'a"⟩,
  ⟨"nxi", none, "Nindi"⟩,
  ⟨"nxk", none, "Koki Naga"⟩,
  ⟨"nxl", none, "South Nuaulu"⟩,
  ⟨"nxm", none, "Numidian"⟩,
  ⟨"nxn", none, "Ngawun"⟩,
  ⟨"nxo", none, "Ndambomo"⟩,
  ⟨"nxq", none, "Naxi"⟩,
  ⟨"nxr", none, "Ninggerum"⟩,
  ⟨"nxx", none, "Nafri"⟩,
  ⟨"nya", some "ny", "Nyanja"⟩,
  ⟨"nyb", none, "Nyangbo"⟩,
  ⟨"nyc", none, "Nyanga-li"⟩,
  ⟨"nyd", none, "Nyore"⟩,
  ⟨"nye", none, "Nyengo"⟩,
  ⟨"nyf", none, "Giryama"⟩,
  ⟨"nyg", none, "Nyindu"⟩,
  ⟨"nyh", none, "Nyikina"⟩,
  ⟨"nyi", none, "Ama"⟩,
  ⟨"nyj", none, "Nyanga"⟩,
  ⟨"nyk", none, "Nyaneka"⟩,
  ⟨"nyl", none, "Nyeu"⟩,
  ⟨"nym", none, "Nyamwezi"⟩,
  ⟨"nyn", none, "Nyankole"⟩,
  ⟨"nyo", none, "Nyoro"⟩,
  ⟨"nyp", none, "Nyang'i"⟩,
  ⟨"nyq", none, "Nayini"⟩,
  ⟨"nyr", none, "Nyiha"⟩,
  ⟨"nys", none, "Nyungar"⟩,
  ⟨"nyt", none, "Nyawaygi"⟩,
  ⟨"nyu", none, "Nyungwe"⟩,
  ⟨"nyv", none, "Nyulnyul"⟩,
  ⟨"nyw", none, "Nyaw"⟩,
  ⟨"nyx", none, "Nganyaywana"⟩,
  ⟨"nyy", none, "Nyakyusa-Ngonde"⟩,
  ⟨"nza", none, "Tigon Mbembe"⟩,
  ⟨"nzb", none, "Njebi"⟩,
  ⟨"nzd", none, "Nzadi"⟩,
  ⟨"nzi", none, "Nzima"⟩,
  ⟨"nzk", none, "Nzakara"⟩,
  ⟨"nzm", none, "Zeme Naga"⟩,
  ⟨"nzs", none, "New Zealand Sign Language"⟩,
  ⟨"nzu", none, "Teke-Nzikou"⟩,
  ⟨"nzy", none, "Nzakambay"⟩,
  ⟨"nzz", none, "Nanga Dama Dogon"⟩]

/-- The languages whose three-letter code starts with `o`, in code order. -/
def entriesO : List Entry := [
  ⟨"oaa", none, "Orok"⟩,
  ⟨"oac", none, "Oroch"⟩,
  ⟨"oar", none, "Old Aramaic"⟩,
  ⟨"oav", none, "Old Avar"⟩,
  ⟨"obi", none, "Obispeño"⟩,
  ⟨"obk", none, "Southern Bontok"⟩,
  ⟨"obl", none, "Oblo"⟩,
  ⟨"obm", none, "Moabite"⟩,
  ⟨"obo", none, "Obo Manobo"⟩,
  ⟨"obr", none, "Old Burmese"⟩,
  ⟨"obt", none, "Old Breton"⟩,
  ⟨"obu", none, "Obulom"⟩,
  ⟨"oca", none, "Ocaina"⟩,
  ⟨"och", none, "Old Chinese"⟩,
  ⟨"oci", some "oc", "Occitan"⟩,
  ⟨"oco", none, "Old Cornish"⟩,
  ⟨"ocu", none, "Atzingo Matlatzinca"⟩,
  ⟨"oda", none, "Odut"⟩,
  ⟨"odk", none, "Od"⟩,
  ⟨"odt", none, "Old Dutch"⟩,
  ⟨"odu", none, "Odual"⟩,
  ⟨"ofo", none, "Ofo"⟩,
  ⟨"ofs", none, "Old Frisian"⟩,
  ⟨"ofu", none, "Efutop"⟩,
  ⟨"ogb", none, "Ogbia"⟩,
  ⟨"ogc", none, "Ogbah"⟩,
  ⟨"oge", none, "Old Georgian"⟩,
  ⟨"ogg", none, "Ogbogolo"⟩,
  ⟨"ogo", none, "Khana"⟩,
  ⟨"ogu", none, "Ogbronuagum"⟩,
  ⟨"oht", none, "Old Hittite"⟩,
  ⟨"ohu", none, "Old Hungarian"⟩,
  ⟨"oia", none, "Oirata"⟩,
  ⟨"oin", none, "Inebu One"⟩,
  ⟨"ojb", none, "Northwestern Ojibwa"⟩,
  ⟨"ojc", none, "Central Ojibwa"⟩,
  ⟨"ojg", none, "Eastern Ojibwa"⟩,
  ⟨"oji", some "oj", "Ojibwa"⟩,
  ⟨"ojp", none, "Old Japanese"⟩,
  ⟨"ojs", none, "Severn Ojibwa"⟩,
  ⟨"ojv", none, "Ontong Java"⟩,
  ⟨"ojw", none, "Western Ojibwa"⟩,
  ⟨"oka", none, "Okanagan"⟩,
  ⟨"okb", none, "Okobo"⟩,
  ⟨"okd", none, "Okodia"⟩,
  ⟨"oke", none, "Okpe"⟩,
  ⟨"okg", none, "Koko Babangk"⟩,
  ⟨"okh", none, "Koresh-e Rostam"⟩,
  ⟨"oki", none, "Okiek"⟩,
  ⟨"okj", none, "Oko-Juwoi"⟩,
  ⟨"okk", none, "Kwamtim One"⟩,
  ⟨"okl", none, "Old Kentish Sign Language"⟩,
  ⟨"okm", none, "Middle Korean"⟩,
  ⟨"okn", none, "Oki-No-Erabu"⟩,
  ⟨"oko", none, "Old Korean"⟩,
  ⟨"okr", none, "Kirike"⟩,
  ⟨"oks", none, "Oko-Eni-Osayen"⟩,
  ⟨"oku", none, "Oku"⟩,
  ⟨"okv", none, "Orokaiva"⟩,
  ⟨"okx", none, "Okpe"⟩,
  ⟨"ola", none, "Walungge"⟩,
  ⟨"old", none, "Mochi"⟩,
  ⟨"ole", none, "Olekha"⟩,
  ⟨"olk", none, "Olkol"⟩,
  ⟨"olm", none, "Oloma"⟩,
  ⟨"olo", none, "Livvi"⟩,
  ⟨"olr", none, "Olrat"⟩,
  ⟨"olt", none, "Old Lithuanian"⟩,
  ⟨"olu", none, "Kuvale"⟩,
  ⟨"oma", none, "Omaha-Ponca"⟩,
  ⟨"omb", none, "East Ambae"⟩,
  ⟨"omc", none, "Mochica"⟩,
  ⟨"omg", none, "Omagua"⟩,
  ⟨"omi", none, "Omi"⟩,
  ⟨"omk", none, "Omok"⟩,
  ⟨"oml", none, "Ombo"⟩,
  ⟨"omn", none, "Minoan"⟩,
  ⟨"omo", none, "Utarmbung"⟩,
  ⟨"omp", none, "Old Manipuri"⟩,
  ⟨"omr", none, "Old Marathi"⟩,
  ⟨"omt", none, "Omotik"⟩,
  ⟨"omu", none, "Omurano"⟩,
  ⟨"omw", none, "South Tairora"⟩,
  ⟨"omx", none, "Old Mon"⟩,
  ⟨"ona", none, "Ona"⟩,
  ⟨"onb", none, "Lingao"⟩,
  ⟨"one", none, "Oneida"⟩,
  ⟨"ong", none, "Olo"⟩,
  ⟨"oni", none, "Onin"⟩,
  ⟨"onj", none, "Onjob"⟩,
  ⟨"onk", none, "Kabore One"⟩,
  ⟨"onn", none, "Onobasulu"⟩,
  ⟨"ono", none, "Onondaga"⟩,
  ⟨"onp", none, "Sartang"⟩,
  ⟨"onr", none, "Northern One"⟩,
  ⟨"ons", none, "Ono"⟩,
  ⟨"ont", none, "Ontenu"⟩,
  ⟨"onu", none, "Unua"⟩,
  ⟨"onw", none, "Old Nubian"⟩,
  ⟨"onx", none, "Onin Based Pidgin"⟩,
  ⟨"ood", none, "Tohono O'odham"⟩,
  ⟨"oog", none, "Ong"⟩,
  ⟨"oon", none, "Önge"⟩,
  ⟨"oor", none, "Oorlams"⟩,
  ⟨"oos", none, "Old Ossetic"⟩,
  ⟨"opa", none, "Okpamheri"⟩,
  ⟨"opk", none, "Kopkaka"⟩,
  ⟨"opm", none, "Oksapmin"⟩,
  ⟨"opo", none, "Opao"⟩,
  ⟨"opt", none, "Opata"⟩,
  ⟨"opy", none, "Ofayé"⟩,
  ⟨"ora", none, "Oroha"⟩,
  ⟨"orc", none, "Orma"⟩,
  ⟨"ore", none, "Orejón"⟩,
  ⟨"org", none, "Oring"⟩,
  ⟨"orh", none, "Oroqen"⟩,
  ⟨"ori", some "or", "Oriya"⟩,
  ⟨"orm", some "om", "Oromo"⟩,
  ⟨"orn", none, "Orang Kanaq"⟩,
  ⟨"oro", none, "Orokolo"⟩,
  ⟨"orr", none, "Oruma"⟩,
  ⟨"ors", none, "Orang Seletar"⟩,
  ⟨"ort", none, "Adivasi Oriya"⟩,
  ⟨"oru", none, "Ormuri"⟩,
  ⟨"orv", none, "Old Russian"⟩,
  ⟨"orw", none, "Oro Win"⟩,
  ⟨"orx", none, "Oro"⟩,
  ⟨"ory", none, "Odia"⟩,
  ⟨"orz", none, "Ormu"⟩,
  ⟨"osa", none, "Osage"⟩,
  ⟨"osc", none, "Oscan"⟩,
  ⟨"osi", none, "Osing"⟩,
  ⟨"oso", none, "Ososo"⟩,
  ⟨"osp", none, "Old Spanish"⟩,
  ⟨"oss", some "os", "Ossetian"⟩,
  ⟨"ost", none, "Osatu"⟩,
  ⟨"osu", none, "Southern One"⟩,
  ⟨"osx", none, "Old Saxon"⟩,
  ⟨"ota", none, "Ottoman Turkish"⟩,
  ⟨"otb", none, "Old Tibetan"⟩,
  ⟨"otd", none, "Ot Danum"⟩,
  ⟨"ote", none, "Mezquital Otomi"⟩,
  ⟨"oti", none, "Oti"⟩,
  ⟨"otk", none, "Old Turkish"⟩,
  ⟨"otl", none, "Tilapa Otomi"⟩,
  ⟨"otm", none, "Eastern Highland Otomi"⟩,
  ⟨"otn", none, "Tenango Otomi"⟩,
  ⟨"otq", none, "Querétaro Otomi"⟩,
  ⟨"otr", none, "Otoro"⟩,
  ⟨"ots", none, "Estado de México Otomi"⟩,
  ⟨"ott", none, "Temoaya Otomi"⟩,
  ⟨"otu", none, "Otuke"⟩,
  ⟨"otw", none, "Ottawa"⟩,
  ⟨"otx", none, "Texcatepec Otomi"⟩,
  ⟨"oty", none, "Old Tamil"⟩,
  ⟨"otz", none, "Ixtenco Otomi"⟩,
  ⟨"oua", none, "Tagargrent"⟩,
  ⟨"oub", none, "Glio-Oubi"⟩,
  ⟨"oue", none, "Oune"⟩,
  ⟨"oui", none, "Old Uighur"⟩,
  ⟨"oum", none, "Ouma"⟩,
  ⟨"ovd", none, "Elfdalian"⟩,
  ⟨"owi", none, "Owiniga"⟩,
  ⟨"owl", none, "Old Welsh"⟩,
  ⟨"oyb", none, "Oy"⟩,
  ⟨"oyd", none, "Oyda"⟩,
  ⟨"oym", none, "Wayampi"⟩,
  ⟨"oyy", none, "Oya'oya"⟩,
  ⟨"ozm", none, "Koonzime"⟩]

/-- The languages whose three-letter code starts with `p`, in code order. -/
def entriesP : List Entry := [
  ⟨"pab", none, "Parecís"⟩,
  ⟨"pac", none, "Pacoh"⟩,
  ⟨"pad", none, "Paumarí"⟩,
  ⟨"pae", none, "Pagibete"⟩,
  ⟨"paf", none, "Paranawát"⟩,
  ⟨"pag", none, "Pangasinan"⟩,
  ⟨"pah", none, "Tenharim"⟩,
  ⟨"pai", none, "Pe"⟩,
  ⟨"pak", none, "Parakanã"⟩,
  ⟨"pal", none, "Pahlavi"⟩,
  ⟨"pam", none, "Pampanga"⟩,
  ⟨"pan", some "pa", "Panjabi"⟩,
  ⟨"pao", none, "Northern Paiute"⟩,
  ⟨"pap", none, "Papiamento"⟩,
  ⟨"paq", none, "Parya"⟩,
  ⟨"par", none, "Panamint"⟩,
  ⟨"pas", none, "Papasena"⟩,
  ⟨"pau", none, "Palauan"⟩,
  ⟨"pav", none, "Pakaásnovos"⟩,
  ⟨"paw", none, "Pawnee"⟩,
  ⟨"pax", none, "Pankararé"⟩,
  ⟨"pay", none, "Pech"⟩,
  ⟨"paz", none, "Pankararú"⟩,
  ⟨"pbb", none, "Páez"⟩,
  ⟨"pbc", none, "Patamona"⟩,
  ⟨"pbe", none, "Mezontla Popoloca"⟩,
  ⟨"pbf", none, "Coyotepec Popoloca"⟩,
  ⟨"pbg", none, "Paraujano"⟩,
  ⟨"pbh", none, "E'ñapa Woromaipu"⟩,
  ⟨"pbi", none, "Parkwa"⟩,
  ⟨"pbl", none, "Mak"⟩,
  ⟨"pbm", none, "Puebla Mazatec"⟩,
  ⟨"pbn", none, "Kpasam"⟩,
  ⟨"pbo", none, "Papel"⟩,
  ⟨"pbp", none, "Badyara"⟩,
  ⟨"pbr", none, "Pangwa"⟩,
  ⟨"pbs", none, "Central Pame"⟩,
  ⟨"pbt", none, "Southern Pashto"⟩,
  ⟨"pbu", none, "Northern Pashto"⟩,
  ⟨"pbv", none, "Pnar"⟩,
  ⟨"pby", none, "Pyu"⟩,
  ⟨"pca", none, "Santa Inés Ahuatempan Popoloca"⟩,
  ⟨"pcb", none, "Pear"⟩,
  ⟨"pcc", none, "Bouyei"⟩,
  ⟨"pcd", none, "Picard"⟩,
  ⟨"pce", none, "Ruching Palaung"⟩,
  ⟨"pcf", none, "Paliyan"⟩,
  ⟨"pcg", none, "Paniya"⟩,
  ⟨"pch", none, "Pardhan"⟩,
  ⟨"pci", none, "Duruwa"⟩,
  ⟨"pcj", none, "Parenga"⟩,
  ⟨"pck", none, "Paite Chin"⟩,
  ⟨"pcl", none, "Pardhi"⟩,
  ⟨"pcm", none, "Nigerian Pidgin"⟩,
  ⟨"pcn", none, "Piti"⟩,
  ⟨"pcp", none, "Pacahuara"⟩,
  ⟨"pcw", none, "Pyapun"⟩,
  ⟨"pda", none, "Anam"⟩,
  ⟨"pdc", none, "Pennsylvania German"⟩,
  ⟨"pdi", none, "Pa Di"⟩,
  ⟨"pdn", none, "Podena"⟩,
  ⟨"pdo", none, "Padoe"⟩,
  ⟨"pdt", none, "Plautdietsch"⟩,
  ⟨"pdu", none, "Kayan"⟩,
  ⟨"pea", none, "Peranakan Indonesian"⟩,
  ⟨"peb", none, "Eastern Pomo"⟩,
  ⟨"ped", none, "Mala"⟩,
  ⟨"pee", none, "Taje"⟩,
  ⟨"pef", none, "Northeastern Pomo"⟩,
  ⟨"peg", none, "Pengo"⟩,
  ⟨"peh", none, "Bonan"⟩,
  ⟨"pei", none, "Chichimeca-Jonaz"⟩,
  ⟨"pej", none, "Northern Pomo"⟩,
  ⟨"pek", none, "Penchal"⟩,
  ⟨"pel", none, "Pekal"⟩,
  ⟨"pem", none, "Phende"⟩,
  ⟨"peo", none, "Old Persian"⟩,
  ⟨"pep", none, "Kunja"⟩,
  ⟨"peq", none, "Southern Pomo"⟩,
  ⟨"pes", none, "Iranian Persian"⟩,
  ⟨"pev", none, "Pémono"⟩,
  ⟨"pex", none, "Petats"⟩,
  ⟨"pey", none, "Petjo"⟩,
  ⟨"pez", none, "Eastern Penan"⟩,
  ⟨"pfa", none, "Pááfang"⟩,
  ⟨"pfe", none, "Pere"⟩,
  ⟨"pfl", none, "Pfaelzisch"⟩,
  ⟨"pga", none, "Sudanese Creole Arabic"⟩,
  ⟨"pgd", none, "Gāndhārī"⟩,
  ⟨"pgg", none, "Pangwali"⟩,
  ⟨"pgi", none, "Pagi"⟩,
  ⟨"pgk", none, "Rerep"⟩,
  ⟨"pgl", none, "Primitive Irish"⟩,
  ⟨"pgn", none, "Paelignian"⟩,
  ⟨"pgs", none, "Pangseng"⟩,
  ⟨"pgu", none, "Pagu"⟩,
  ⟨"pgz", none, "Papua New Guinean Sign Language"⟩,
  ⟨"pha", none, "Pa-Hng"⟩,
  ⟨"phd", none, "Phudagi"⟩,
  ⟨"phg", none, "Phuong"⟩,
  ⟨"phh", none, "Phukha"⟩,
  ⟨"phj", none, "Pahari"⟩,
  ⟨"phk", none, "Phake"⟩,
  ⟨"phl", none, "Phalura"⟩,
  ⟨"phm", none, "Phimbi"⟩,
  ⟨"phn", none, "Phoenician"⟩,
  ⟨"pho", none, "Phunoi"⟩,
  ⟨"phq", none, "Phana'"⟩,
  ⟨"phr", none, "Pahari-Potwari"⟩,
  ⟨"pht", none, "Phu Thai"⟩,
  ⟨"phu", none, "Phuan"⟩,
  ⟨"phv", none, "Pahlavani"⟩,
  ⟨"phw", none, "Phangduwali"⟩,
  ⟨"pia", none, "Pima Bajo"⟩,
  ⟨"pib", none, "Yine"⟩,
  ⟨"pic", none, "Pinji"⟩,
  ⟨"pid", none, "Piaroa"⟩,
  ⟨"pie", none, "Piro"⟩,
  ⟨"pif", none, "Pingelapese"⟩,
  ⟨"pig", none, "Pisabo"⟩,
  ⟨"pih", none, "Pitcairn-Norfolk"⟩,
  ⟨"pii", none, "Pini"⟩,
  ⟨"pij", none, "Pijao"⟩,
  ⟨"pil", none, "Yom"⟩,
  ⟨"pim", none, "Powhatan"⟩,
  ⟨"pin", none, "Piame"⟩,
  ⟨"pio", none, "Piapoco"⟩,
  ⟨"pip", none, "Pero"⟩,
  ⟨"pir", none, "Piratapuyo"⟩,
  ⟨"pis", none, "Pijin"⟩,
  ⟨"pit", none, "Pitta Pitta"⟩,
  ⟨"piu", none, "Pintupi-Luritja"⟩,
  ⟨"piv", none, "Pileni"⟩,
  ⟨"piw", none, "Pimbwe"⟩,
  ⟨"pix", none, "Piu"⟩,
  ⟨"piy", none, "Piya-Kwonci"⟩,
  ⟨"piz", none, "Pije"⟩,
  ⟨"pjt", none, "Pitjantjatjara"⟩,
  ⟨"pka", none, "Ardhamāgadhī Prākrit"⟩,
  ⟨"pkb", none, "Pokomo"⟩,
  ⟨"pkc", none, "Paekche"⟩,
  ⟨"pkg", none, "Pak-Tong"⟩,
  ⟨"pkh", none, "Pankhu"⟩,
  ⟨"pkn", none, "Pakanha"⟩,
  ⟨"pko", none, "Pökoot"⟩,
  ⟨"pkp", none, "Pukapuka"⟩,
  ⟨"pkr", none, "Attapady Kurumba"⟩,
  ⟨"pks", none, "Pakistan Sign Language"⟩,
  ⟨"pkt", none, "Maleng"⟩,
  ⟨"pku", none, "Paku"⟩,
  ⟨"pla", none, "Miani"⟩,
  ⟨"plb", none, "Polonombauk"⟩,
  ⟨"plc", none, "Central Palawano"⟩,
  ⟨"pld", none, "Polari"⟩,
  ⟨"ple", none, "Palu'e"⟩,
  ⟨"plg", none, "Pilagá"⟩,
  ⟨"plh", none, "Paulohi"⟩,
  ⟨"pli", some "pi", "Pali"⟩,
  ⟨"plk", none, "Kohistani Shina"⟩,
  ⟨"pll", none, "Shwe Palaung"⟩,
  ⟨"pln", none, "Palenquero"⟩,
  ⟨"plo", none, "Oluta Popoluca"⟩,
  ⟨"plq", none, "Palaic"⟩,
  ⟨"plr", none, "Palaka Senoufo"⟩,
  ⟨"pls", none, "San Marcos Tlacoyalco Popoloca"⟩,
  ⟨"plt", none, "Plateau Malagasy"⟩,
  ⟨"plu", none, "Palikúr"⟩,
  ⟨"plv", none, "Southwest Palawano"⟩,
  ⟨"plw", none, "Brooke's Point Palawano"⟩,
  ⟨"ply", none, "Bolyu"⟩,
  ⟨"plz", none, "Paluan"⟩,
  ⟨"pma", none, "Paama"⟩,
  ⟨"pmb", none, "Pambia"⟩,
  ⟨"pmd", none, "Pallanganmiddang"⟩,
  ⟨"pme", none, "Pwaamei"⟩,
  ⟨"pmf", none, "Pamona"⟩,
  ⟨"pmh", none, "Māhārāṣṭri Prākrit"⟩,
  ⟨"pmi", none, "Northern Pumi"⟩,
  ⟨"pmj", none, "Southern Pumi"⟩,
  ⟨"pmk", none, "Pamlico"⟩,
  ⟨"pml", none, "Lingua Franca"⟩,
  ⟨"pmm", none, "Pomo"⟩,
  ⟨"pmn", none, "Pam"⟩,
  ⟨"pmo", none, "Pom"⟩,
  ⟨"pmq", none, "Northern Pame"⟩,
  ⟨"pmr", none, "Paynamar"⟩,
  ⟨"pms", none, "Piemontese"⟩,
  ⟨"pmt", none, "Tuamotuan"⟩,
  ⟨"pmw", none, "Plains Miwok"⟩,
  ⟨"pmx", none, "Poumei Naga"⟩,
  ⟨"pmy", none, "Papuan Malay"⟩,
  ⟨"pmz", none, "Southern Pame"⟩,
  ⟨"pna", none, "Punan Bah-Biau"⟩,
  ⟨"pnb", none, "Western Panjabi"⟩,
  ⟨"pnc", none, "Pannei"⟩,
  ⟨"pnd", none, "Mpinda"⟩,
  ⟨"pne", none, "Western Penan"⟩,
  ⟨"png", none, "Pangu"⟩,
  ⟨"pnh", none, "Penrhyn"⟩,
  ⟨"pni", none, "Aoheng"⟩,
  ⟨"pnj", none, "Pinjarup"⟩,
  ⟨"pnk", none, "Paunaka"⟩,
  ⟨"pnl", none, "Paleni"⟩,
  ⟨"pnm", none, "Punan Batu 1"⟩,
  ⟨"pnn", none, "Pinai-Hagahai"⟩,
  ⟨"pno", none, "Panobo"⟩,
  ⟨"pnp", none, "Pancana"⟩,
  ⟨"pnq", none, "Pana"⟩,
  ⟨"pnr", none, "Panim"⟩,
  ⟨"pns", none, "Ponosakan"⟩,
  ⟨"pnt", none, "Pontic"⟩,
  ⟨"pnu", none, "Jiongnai Bunu"⟩,
  ⟨"pnv", none, "Pinigura"⟩,
  ⟨"pnw", none, "Banyjima"⟩,
  ⟨"pnx", none, "Phong-Kniang"⟩,
  ⟨"pny", none, "Pinyin"⟩,
  ⟨"pnz", none, "Pana"⟩,
  ⟨"poc", none, "Poqomam"⟩,
  ⟨"poe", none, "San Juan Atzingo Popoloca"⟩,
  ⟨"pof", none, "Poke"⟩,
  ⟨"pog", none, "Potiguára"⟩,
  ⟨"poh", none, "Poqomchi'"⟩,
  ⟨"poi", none, "Highland Popoluca"⟩,
  ⟨"pok", none, "Pokangá"⟩,
  ⟨"pol", some "pl", "Polish"⟩,
  ⟨"pom", none, "Southeastern Pomo"⟩,
  ⟨"pon", none, "Pohnpeian"⟩,
  ⟨"poo", none, "Central Pomo"⟩,
  ⟨"pop", none, "Pwapwâ"⟩,
  ⟨"poq", none, "Texistepec Popoluca"⟩,
  ⟨"por", some "pt", "Portuguese"⟩,
  ⟨"pos", none, "Sayula Popoluca"⟩,
  ⟨"pot", none, "Potawatomi"⟩,
  ⟨"pov", none, "Upper Guinea Crioulo"⟩,
  ⟨"pow", none, "San Felipe Otlaltepec Popoloca"⟩,
  ⟨"pox", none, "Polabian"⟩,
  ⟨"poy", none, "Pogolo"⟩,
  ⟨"ppe", none, "Papi"⟩,
  ⟨"ppi", none, "Paipai"⟩,
  ⟨"ppk", none, "Uma"⟩,
  ⟨"ppl", none, "Pipil"⟩,
  ⟨"ppm", none, "Papuma"⟩,
  ⟨"ppn", none, "Papapana"⟩,
  ⟨"ppo", none, "Folopa"⟩,
  ⟨"ppp", none, "Pelende"⟩,
  ⟨"ppq", none, "Pei"⟩,
  ⟨"pps", none, "San Luís Temalacayuca Popoloca"⟩,
  ⟨"ppt", none, "Pare"⟩,
  ⟨"ppu", none, "Papora"⟩,
  ⟨"pqa", none, "Pa'a"⟩,
  ⟨"pqm", none, "Malecite-Passamaquoddy"⟩,
  ⟨"prc", none, "Parachi"⟩,
  ⟨"prd", none, "Parsi-Dari"⟩,
  ⟨"pre", none, "Principense"⟩,
  ⟨"prf", none, "Paranan"⟩,
  ⟨"prg", none, "Prussian"⟩,
  ⟨"prh", none, "Porohanon"⟩,
  ⟨"pri", none, "Paicî"⟩,
  ⟨"prk", none, "Parauk"⟩,
  ⟨"prl", none, "Peruvian Sign Language"⟩,
  ⟨"prm", none, "Kibiri"⟩,
  ⟨"prn", none, "Prasuni"⟩,
  ⟨"pro", none, "Old Provençal"⟩,
  ⟨"prq", none, "Ashéninka Perené"⟩,
  ⟨"prr", none, "Puri"⟩,
  ⟨"prs", none, "Dari"⟩,
  ⟨"prt", none, "Phai"⟩,
  ⟨"pru", none, "Puragi"⟩,
  ⟨"prw", none, "Parawen"⟩,
  ⟨"prx", none, "Purik"⟩,
  ⟨"prz", none, "Providencia Sign Language"⟩,
  ⟨"psa", none, "Asue Awyu"⟩,
  ⟨"psc", none, "Iranian Sign Language"⟩,
  ⟨"psd", none, "Plains Indian Sign Language"⟩,
  ⟨"pse", none, "Central Malay"⟩,
  ⟨"psg", none, "Penang Sign Language"⟩,
  ⟨"psh", none, "Southwest Pashai"⟩,
  ⟨"psi", none, "Southeast Pashai"⟩,
  ⟨"psl", none, "Puerto Rican Sign Language"⟩,
  ⟨"psm", none, "Pauserna"⟩,
  ⟨"psn", none, "Panasuan"⟩,
  ⟨"pso", none, "Polish Sign Language"⟩,
  ⟨"psp", none, "Philippine Sign Language"⟩,
  ⟨"psq", none, "Pasi"⟩,
  ⟨"psr", none, "Portuguese Sign Language"⟩,
  ⟨"pss", none, "Kaulong"⟩,
  ⟨"pst", none, "Central Pashto"⟩,
  ⟨"psu", none, "Sauraseni Prākrit"⟩,
  ⟨"psw", none, "Port Sandwich"⟩,
  ⟨"psy", none, "Piscataway"⟩,
  ⟨"pta", none, "Pai Tavytera"⟩,
  ⟨"pth", none, "Pataxó Hã-Ha-Hãe"⟩,
  ⟨"pti", none, "Pindiini"⟩,
  ⟨"ptn", none, "Patani"⟩,
  ⟨"pto", none, "Zo'é"⟩,
  ⟨"ptp", none, "Patep"⟩,
  ⟨"ptq", none, "Pattapu"⟩,
  ⟨"ptr", none, "Piamatsina"⟩,
  ⟨"ptt", none, "Enrekang"⟩,
  ⟨"ptu", none, "Bambam"⟩,
  ⟨"ptv", none, "Port Vato"⟩,
  ⟨"ptw", none, "Pentlatch"⟩,
  ⟨"pty", none, "Pathiya"⟩,
  ⟨"pua", none, "Western Highland Purepecha"⟩,
  ⟨"pub", none, "Purum"⟩,
  ⟨"puc", none, "Punan Merap"⟩,
  ⟨"pud", none, "Punan Aput"⟩,
  ⟨"pue", none, "Puelche"⟩,
  ⟨"puf", none, "Punan Merah"⟩,
  ⟨"pug", none, "Phuie"⟩,
  ⟨"pui", none, "Puinave"⟩,
  ⟨"puj", none, "Punan Tubu"⟩,
  ⟨"pum", none, "Puma"⟩,
  ⟨"puo", none, "Puoc"⟩,
  ⟨"pup", none, "Pulabu"⟩,
  ⟨"puq", none, "Puquina"⟩,
  ⟨"pur", none, "Puruborá"⟩,
  ⟨"pus", some "ps", "Pushto"⟩,
  ⟨"put", none, "Putoh"⟩,
  ⟨"puu", none, "Punu"⟩,
  ⟨"puw", none, "Puluwatese"⟩,
  ⟨"pux", none, "Puare"⟩,
  ⟨"puy", none, "Purisimeño"⟩,
  ⟨"pwa", none, "Pawaia"⟩,
  ⟨"pwb", none, "Panawa"⟩,
  ⟨"pwg", none, "Gapapaiwa"⟩,
  ⟨"pwi", none, "Patwin"⟩,
  ⟨"pwm", none, "Molbog"⟩,
  ⟨"pwn", none, "Paiwan"⟩,
  ⟨"pwo", none, "Pwo Western Karen"⟩,
  ⟨"pwr", none, "Powari"⟩,
  ⟨"pww", none, "Pwo Northern Karen"⟩,
  ⟨"pxm", none, "Quetzaltepec Mixe"⟩,
  ⟨"pye", none, "Pye Krumen"⟩,
  ⟨"pym", none, "Fyam"⟩,
  ⟨"pyn", none, "Poyanáwa"⟩,
  ⟨"pys", none, "Paraguayan Sign Language"⟩,
  ⟨"pyu", none, "Puyuma"⟩,
  ⟨"pyx", none, "Pyu"⟩,
  ⟨"pyy", none, "Pyen"⟩,
  ⟨"pzh", none, "Pazeh"⟩,
  ⟨"pzn", none, "Jejara Naga"⟩]

/-- The languages whose three-letter code starts with `q`, in code order. -/
def entriesQ : List Entry := [
  ⟨"qua", none, "Quapaw"⟩,
  ⟨"qub", none, "Huallaga Huánuco Quechua"⟩,
  ⟨"quc", none, "K'iche'"⟩,
  ⟨"qud", none, "Calderón Highland Quichua"⟩,
  ⟨"que", some "qu", "Quechua"⟩,
  ⟨"quf", none, "Lambayeque Quechua"⟩,
  ⟨"qug", none, "Chimborazo Highland Quichua"⟩,
  ⟨"quh", none, "South Bolivian Quechua"⟩,
  ⟨"qui", none, "Quileute"⟩,
  ⟨"quk", none, "Chachapoyas Quechua"⟩,
  ⟨"qul", none, "North Bolivian Quechua"⟩,
  ⟨"qum", none, "Sipacapense"⟩,
  ⟨"qun", none, "Quinault"⟩,
  ⟨"qup", none, "Southern Pastaza Quechua"⟩,
  ⟨"quq", none, "Quinqui"⟩,
  ⟨"qur", none, "Yanahuanca Pasco Quechua"⟩,
  ⟨"qus", none, "Santiago del Estero Quichua"⟩,
  ⟨"quv", none, "Sacapulteco"⟩,
  ⟨"quw", none, "Tena Lowland Quichua"⟩,
  ⟨"qux", none, "Yauyos Quechua"⟩,
  ⟨"quy", none, "Ayacucho Quechua"⟩,
  ⟨"quz", none, "Cusco Quechua"⟩,
  ⟨"qva", none, "Ambo-Pasco Quechua"⟩,
  ⟨"qvc", none, "Cajamarca Quechua"⟩,
  ⟨"qve", none, "Eastern Apurímac Quechua"⟩,
  ⟨"qvh", none, "Huamalíes-Dos de Mayo Huánuco Quechua"⟩,
  ⟨"qvi", none, "Imbabura Highland Quichua"⟩,
  ⟨"qvj", none, "Loja Highland Quichua"⟩,
  ⟨"qvl", none, "Cajatambo North Lima Quechua"⟩,
  ⟨"qvm", none, "Margos-Yarowilca-Lauricocha Quechua"⟩,
  ⟨"qvn", none, "North Junín Quechua"⟩,
  ⟨"qvo", none, "Napo Lowland Quechua"⟩,
  ⟨"qvp", none, "Pacaraos Quechua"⟩,
  ⟨"qvs", none, "San Martín Quechua"⟩,
  ⟨"qvw", none, "Huaylla Wanca Quechua"⟩,
  ⟨"qvy", none, "Queyu"⟩,
  ⟨"qvz", none, "Northern Pastaza Quichua"⟩,
  ⟨"qwa", none, "Corongo Ancash Quechua"⟩,
  ⟨"qwc", none, "Classical Quechua"⟩,
  ⟨"qwh", none, "Huaylas Ancash Quechua"⟩,
  ⟨"qwm", none, "Kuman"⟩,
  ⟨"qws", none, "Sihuas Ancash Quechua"⟩,
  ⟨"qwt", none, "Kwalhioqua-Tlatskanai"⟩,
  ⟨"qxa", none, "Chiquián Ancash Quechua"⟩,
  ⟨"qxc", none, "Chincho Quechua"⟩,
  ⟨"qxh", none, "Panao Huánuco Quechua"⟩,
  ⟨"qxl", none, "Salasaca Highland Quichua"⟩,
  ⟨"qxn", none, "Northern Conchucos Ancash Quechua"⟩,
  ⟨"qxo", none, "Southern Conchucos Ancash Quechua"⟩,
  ⟨"qxp", none, "Puno Quechua"⟩,
  ⟨"qxq", none, "Qashqa'i"⟩,
  ⟨"qxr", none, "Cañar Highland Quichua"⟩,
  ⟨"qxs", none, "Southern Qiang"⟩,
  ⟨"qxt", none, "Santa Ana de Tusi Pasco Quechua"⟩,
  ⟨"qxu", none, "Arequipa-La Unión Quechua"⟩,
  ⟨"qxw", none, "Jauja Wanca Quechua"⟩,
  ⟨"qyp", none, "Quiripi"⟩]

/-- The languages whose three-letter code starts with `r`, in code order. -/
def entriesR : List Entry := [
  ⟨"raa", none, "Dungmali"⟩,
  ⟨"rab", none, "Camling"⟩,
  ⟨"rac", none, "Rasawa"⟩,
  ⟨"rad", none, "Rade"⟩,
  ⟨"raf", none, "Western Meohang"⟩,
  ⟨"rag", none, "Logooli"⟩,
  ⟨"rah", none, "Rabha"⟩,
  ⟨"rai", none, "Ramoaaina"⟩,
  ⟨"raj", none, "Rajasthani"⟩,
  ⟨"rak", none, "Tulu-Bohuai"⟩,
  ⟨"ral", none, "Ralte"⟩,
  ⟨"ram", none, "Canela"⟩,
  ⟨"ran", none, "Riantana"⟩,
  ⟨"rao", none, "Rao"⟩,
  ⟨"rap", none, "Rapanui"⟩,
  ⟨"raq", none, "Saam"⟩,
  ⟨"rar", none, "Rarotongan"⟩,
  ⟨"ras", none, "Tegali"⟩,
  ⟨"rat", none, "Razajerdi"⟩,
  ⟨"rau", none, "Raute"⟩,
  ⟨"rav", none, "Sampang"⟩,
  ⟨"raw", none, "Rawang"⟩,
  ⟨"rax", none, "Rang"⟩,
  ⟨"ray", none, "Rapa"⟩,
  ⟨"raz", none, "Rahambuu"⟩,
  ⟨"rbb", none, "Rumai Palaung"⟩,
  ⟨"rbk", none, "Northern Bontok"⟩,
  ⟨"rbl", none, "Miraya Bikol"⟩,
  ⟨"rbp", none, "Barababaraba"⟩,
  ⟨"rcf", none, "Réunion Creole French"⟩,
  ⟨"rdb", none, "Rudbari"⟩,
  ⟨"rea", none, "Rerau"⟩,
  ⟨"reb", none, "Rembong"⟩,
  ⟨"ree", none, "Rejang Kayan"⟩,
  ⟨"reg", none, "Kara"⟩,
  ⟨"rei", none, "Reli"⟩,
  ⟨"rej", none, "Rejang"⟩,
  ⟨"rel", none, "Rendille"⟩,
  ⟨"rem", none, "Remo"⟩,
  ⟨"ren", none, "Rengao"⟩,
  ⟨"rer", none, "Rer Bare"⟩,
  ⟨"res", none, "Reshe"⟩,
  ⟨"ret", none, "Retta"⟩,
  ⟨"rey", none, "Reyesano"⟩,
  ⟨"rga", none, "Roria"⟩,
  ⟨"rge", none, "Romano-Greek"⟩,
  ⟨"rgk", none, "Rangkas"⟩,
  ⟨"rgn", none, "Romagnol"⟩,
  ⟨"rgr", none, "Resígaro"⟩,
  ⟨"rgs", none, "Southern Roglai"⟩,
  ⟨"rgu", none, "Ringgou"⟩,
  ⟨"rhg", none, "Rohingya"⟩,
  ⟨"rhp", none, "Yahang"⟩,
  ⟨"ria", none, "Riang"⟩,
  ⟨"rib", none, "Bribri Sign Language"⟩,
  ⟨"rif", none, "Tarifit"⟩,
  ⟨"ril", none, "Riang Lang"⟩,
  ⟨"rim", none, "Nyaturu"⟩,
  ⟨"rin", none, "Nungu"⟩,
  ⟨"rir", none, "Ribun"⟩,
  ⟨"rit", none, "Ritharrngu"⟩,
  ⟨"riu", none, "Riung"⟩,
  ⟨"rjg", none, "Rajong"⟩,
  ⟨"rji", none, "Raji"⟩,
  ⟨"rjs", none, "Rajbanshi"⟩,
  ⟨"rka", none, "Kraol"⟩,
  ⟨"rkb", none, "Rikbaktsa"⟩,
  ⟨"rkh", none, "Rakahanga-Manihiki"⟩,
  ⟨"rki", none, "Rakhine"⟩,
  ⟨"rkm", none, "Marka"⟩,
  ⟨"rkt", none, "Rangpuri"⟩,
  ⟨"rkw", none, "Arakwal"⟩,
  ⟨"rma", none, "Rama"⟩,
  ⟨"rmb", none, "Rembarrnga"⟩,
  ⟨"rmc", none, "Carpathian Romani"⟩,
  ⟨"rmd", none, "Traveller Danish"⟩,
  ⟨"rme", none, "Angloromani"⟩,
  ⟨"rmf", none, "Kalo Finnish Romani"⟩,
  ⟨"rmg", none, "Traveller Norwegian"⟩,
  ⟨"rmh", none, "Murkim"⟩,
  ⟨"rmi", none, "Lomavren"⟩,
  ⟨"rmk", none, "Romkun"⟩,
  ⟨"rml", none, "Baltic Romani"⟩,
  ⟨"rmm", none, "Roma"⟩,
  ⟨"rmn", none, "Balkan Romani"⟩,
  ⟨"rmo", none, "Sinte Romani"⟩,
  ⟨"rmp", none, "Rempi"⟩,
  ⟨"rmq", none, "Caló"⟩,
  ⟨"rms", none, "Romanian Sign Language"⟩,
  ⟨"rmt", none, "Domari"⟩,
  ⟨"rmu", none, "Tavringer Romani"⟩,
  ⟨"rmv", none, "Romanova"⟩,
  ⟨"rmw", none, "Welsh Romani"⟩,
  ⟨"rmx", none, "Romam"⟩,
  ⟨"rmy", none, "Vlax Romani"⟩,
  ⟨"rmz", none, "Marma"⟩,
  ⟨"rnb", none, "Brunca Sign Language"⟩,
  ⟨"rnd", none, "Ruund"⟩,
  ⟨"rng", none, "Ronga"⟩,
  ⟨"rnl", none, "Ranglong"⟩,
  ⟨"rnn", none, "Roon"⟩,
  ⟨"rnp", none, "Rongpo"⟩,
  ⟨"rnr", none, "Nari Nari"⟩,
  ⟨"rnw", none, "Rungwa"⟩,
  ⟨"rob", none, "Tae'"⟩,
  ⟨"roc", none, "Cacgia Roglai"⟩,
  ⟨"rod", none, "Rogo"⟩,
  ⟨"roe", none, "Ronji"⟩,
  ⟨"rof", none, "Rombo"⟩,
  ⟨"rog", none, "Northern Roglai"⟩,
  ⟨"roh", some "rm", "Romansh"⟩,
  ⟨"rol", none, "Romblomanon"⟩,
  ⟨"rom", none, "Romany"⟩,
  ⟨"ron", some "ro", "Romanian"⟩,
  ⟨"roo", none, "Rotokas"⟩,
  ⟨"rop", none, "Kriol"⟩,
  ⟨"ror", none, "Rongga"⟩,
  ⟨"rou", none, "Runga"⟩,
  ⟨"row", none, "Dela-Oenale"⟩,
  ⟨"rpn", none, "Repanbitip"⟩,
  ⟨"rpt", none, "Rapting"⟩,
  ⟨"rri", none, "Ririo"⟩,
  ⟨"rro", none, "Waima"⟩,
  ⟨"rrt", none, "Arritinngithigh"⟩,
  ⟨"rsb", none, "Romano-Serbian"⟩,
  ⟨"rsl", none, "Russian Sign Language"⟩,
  ⟨"rsm", none, "Miriwoong Sign Language"⟩,
  ⟨"rsn", none, "Rwandan Sign Language"⟩,
  ⟨"rtc", none, "Rungtu Chin"⟩,
  ⟨"rth", none, "Ratahan"⟩,
  ⟨"rtm", none, "Rotuman"⟩,
  ⟨"rts", none, "Yurats"⟩,
  ⟨"rtw", none, "Rathawi"⟩,
  ⟨"rub", none, "Gungu"⟩,
  ⟨"ruc", none, "Ruuli"⟩,
  ⟨"rue", none, "Rusyn"⟩,
  ⟨"ruf", none, "Luguru"⟩,
  ⟨"rug", none, "Roviana"⟩,
  ⟨"ruh", none, "Ruga"⟩,
  ⟨"rui", none, "Rufiji"⟩,
  ⟨"ruk", none, "Che"⟩,
  ⟨"run", some "rn", "Rundi"⟩,
  ⟨"ruo", none, "Istro Romanian"⟩,
  ⟨"rup", none, "Macedo-Romanian"⟩,
  ⟨"ruq", none, "Megleno Romanian"⟩,
  ⟨"rus", some "ru", "Russian"⟩,
  ⟨"rut", none, "Rutul"⟩,
  ⟨"ruu", none, "Lanas Lobu"⟩,
  ⟨"ruy", none, "Mala"⟩,
  ⟨"ruz", none, "Ruma"⟩,
  ⟨"rwa", none, "Rawo"⟩,
  ⟨"rwk", none, "Rwa"⟩,
  ⟨"rwm", none, "Amba"⟩,
  ⟨"rwo", none, "Rawa"⟩,
  ⟨"rwr", none, "Marwari"⟩,
  ⟨"rxd", none, "Ngardi"⟩,
  ⟨"rxw", none, "Karuwali"⟩,
  ⟨"ryn", none, "Northern Amami-Oshima"⟩,
  ⟨"rys", none, "Yaeyama"⟩,
  ⟨"ryu", none, "Central Okinawan"⟩,
  ⟨"rzh", none, "Rāziḥī"⟩]

/-- The languages whose three-letter code starts with `s`, in code order. -/
def entriesS : List Entry := [
  ⟨"saa", none, "Saba"⟩,
  ⟨"sab", none, "Buglere"⟩,
  ⟨"sac", none, "Meskwaki"⟩,
  ⟨"sad", none, "Sandawe"⟩,
  ⟨"sae", none, "Sabanê"⟩,
  ⟨"saf", none, "Safaliba"⟩,
  ⟨"sag", some "sg", "Sango"⟩,
  ⟨"sah", none, "Yakut"⟩,
  ⟨"saj", none, "Sahu"⟩,
  ⟨"sak", none, "Sake"⟩,
  ⟨"sam", none, "Samaritan Aramaic"⟩,
  ⟨"san", some "sa", "Sanskrit"⟩,
  ⟨"sao", none, "Sause"⟩,
  ⟨"saq", none, "Samburu"⟩,
  ⟨"sar", none, "Saraveca"⟩,
  ⟨"sas", none, "Sasak"⟩,
  ⟨"sat", none, "Santali"⟩,
  ⟨"sau", none, "Saleman"⟩,
  ⟨"sav", none, "Saafi-Saafi"⟩,
  ⟨"saw", none, "Sawi"⟩,
  ⟨"sax", none, "Sa"⟩,
  ⟨"say", none, "Saya"⟩,
  ⟨"saz", none, "Saurashtra"⟩,
  ⟨"sba", none, "Ngambay"⟩,
  ⟨"sbb", none, "Simbo"⟩,
  ⟨"sbc", none, "Kele"⟩,
  ⟨"sbd", none, "Southern Samo"⟩,
  ⟨"sbe", none, "Saliba"⟩,
  ⟨"sbf", none, "Chabu"⟩,
  ⟨"sbg", none, "Seget"⟩,
  ⟨"sbh", none, "Sori-Harengan"⟩,
  ⟨"sbi", none, "Seti"⟩,
  ⟨"sbj", none, "Surbakhal"⟩,
  ⟨"sbk", none, "Safwa"⟩,
  ⟨"sbl", none, "Botolan Sambal"⟩,
  ⟨"sbm", none, "Sagala"⟩,
  ⟨"sbn", none, "Sindhi Bhil"⟩,
  ⟨"sbo", none, "Sabüm"⟩,
  ⟨"sbp", none, "Sangu"⟩,
  ⟨"sbq", none, "Sileibi"⟩,
  ⟨"sbr", none, "Sembakung Murut"⟩,
  ⟨"sbs", none, "Subiya"⟩,
  ⟨"sbt", none, "Kimki"⟩,
  ⟨"sbu", none, "Stod Bhoti"⟩,
  ⟨"sbv", none, "Sabine"⟩,
  ⟨"sbw", none, "Simba"⟩,
  ⟨"sbx", none, "Seberuang"⟩,
  ⟨"sby", none, "Soli"⟩,
  ⟨"sbz", none, "Sara Kaba"⟩,
  ⟨"scb", none, "Chut"⟩,
  ⟨"sce", none, "Dongxiang"⟩,
  ⟨"scf", none, "San Miguel Creole French"⟩,
  ⟨"scg", none, "Sanggau"⟩,
  ⟨"sch", none, "Sakachep"⟩,
  ⟨"sci", none, "Sri Lankan Creole Malay"⟩,
  ⟨"sck", none, "Sadri"⟩,
  ⟨"scl", none, "Shina"⟩,
  ⟨"scn", none, "Sicilian"⟩,
  ⟨"sco", none, "Scots"⟩,
  ⟨"scp", none, "Hyolmo"⟩,
  ⟨"scq", none, "Sa'och"⟩,
  ⟨"scs", none, "North Slavey"⟩,
  ⟨"sct", none, "Southern Katang"⟩,
  ⟨"scu", none, "Shumcho"⟩,
  ⟨"scv", none, "Sheni"⟩,
  ⟨"scw", none, "Sha"⟩,
  ⟨"scx", none, "Sicel"⟩,
  ⟨"sda", none, "Toraja-Sa'dan"⟩,
  ⟨"sdb", none, "Shabak"⟩,
  ⟨"sdc", none, "Sassarese Sardinian"⟩,
  ⟨"sde", none, "Surubu"⟩,
  ⟨"sdf", none, "Sarli"⟩,
  ⟨"sdg", none, "Savi"⟩,
  ⟨"sdh", none, "Southern Kurdish"⟩,
  ⟨"sdj", none, "Suundi"⟩,
  ⟨"sdk", none, "Sos Kundi"⟩,
  ⟨"sdl", none, "Saudi Arabian Sign Language"⟩,
  ⟨"sdn", none, "Gallurese Sardinian"⟩,
  ⟨"sdo", none, "Bukar-Sadung Bidayuh"⟩,
  ⟨"sdp", none, "Sherdukpen"⟩,
  ⟨"sdq", none, "Semandang"⟩,
  ⟨"sdr", none, "Oraon Sadri"⟩,
  ⟨"sds", none, "Sened"⟩,
  ⟨"sdt", none, "Shuadit"⟩,
  ⟨"sdu", none, "Sarudu"⟩,
  ⟨"sdx", none, "Sibu Melanau"⟩,
  ⟨"sdz", none, "Sallands"⟩,
  ⟨"sea", none, "Semai"⟩,
  ⟨"seb", none, "Shempire Senoufo"⟩,
  ⟨"sec", none, "Sechelt"⟩,
  ⟨"sed", none, "Sedang"⟩,
  ⟨"see", none, "Seneca"⟩,
  ⟨"sef", none, "Cebaara Senoufo"⟩,
  ⟨"seg", none, "Segeju"⟩,
  ⟨"seh", none, "Sena"⟩,
  ⟨"sei", none, "Seri"⟩,
  ⟨"sej", none, "Sene"⟩,
  ⟨"sek", none, "Sekani"⟩,
  ⟨"sel", none, "Selkup"⟩,
  ⟨"sen", none, "Nanerigé Sénoufo"⟩,
  ⟨"seo", none, "Suarmin"⟩,
  ⟨"sep", none, "Sìcìté Sénoufo"⟩,
  ⟨"seq", none, "Senara Sénoufo"⟩,
  ⟨"ser", none, "Serrano"⟩,
  ⟨"ses", none, "Koyraboro Senni Songhai"⟩,
  ⟨"set", none, "Sentani"⟩,
  ⟨"seu", none, "Serui-Laut"⟩,
  ⟨"sev", none, "Nyarafolo Senoufo"⟩,
  ⟨"sew", none, "Sewa Bay"⟩,
  ⟨"sey", none, "Secoya"⟩,
  ⟨"sez", none, "Senthang Chin"⟩,
  ⟨"sfb", none, "Langue des signes de Belgique Francophone"⟩,
  ⟨"sfe", none, "Eastern Subanen"⟩,
  ⟨"sfm", none, "Small Flowery Miao"⟩,
  ⟨"sfs", none, "South African Sign Language"⟩,
  ⟨"sfw", none, "Sehwi"⟩,
  ⟨"sga", none, "Old Irish"⟩,
  ⟨"sgb", none, "Mag-antsi Ayta"⟩,
  ⟨"sgc", none, "Kipsigis"⟩,
  ⟨"sgd", none, "Surigaonon"⟩,
  ⟨"sge", none, "Segai"⟩,
  ⟨"sgg", none, "Swiss-German Sign Language"⟩,
  ⟨"sgh", none, "Shughni"⟩,
  ⟨"sgi", none, "Suga"⟩,
  ⟨"sgj", none, "Surgujia"⟩,
  ⟨"sgk", none, "Sangkong"⟩,
  ⟨"sgm", none, "Singa"⟩,
  ⟨"sgp", none, "Singpho"⟩,
  ⟨"sgr", none, "Sangisari"⟩,
  ⟨"sgs", none, "Samogitian"⟩,
  ⟨"sgt", none, "Brokpake"⟩,
  ⟨"sgu", none, "Salas"⟩,
  ⟨"sgw", none, "Sebat Bet Gurage"⟩,
  ⟨"sgx", none, "Sierra Leone Sign Language"⟩,
  ⟨"sgy", none, "Sanglechi"⟩,
  ⟨"sgz", none, "Sursurunga"⟩,
  ⟨"sha", none, "Shall-Zwall"⟩,
  ⟨"shb", none, "Ninam"⟩,
  ⟨"shc", none, "Sonde"⟩,
  ⟨"shd", none, "Kundal Shahi"⟩,
  ⟨"she", none, "Sheko"⟩,
  ⟨"shg", none, "Shua"⟩,
  ⟨"shh", none, "Shoshoni"⟩,
  ⟨"shi", none, "Tachelhit"⟩,
  ⟨"shj", none, "Shatt"⟩,
  ⟨"shk", none, "Shilluk"⟩,
  ⟨"shl", none, "Shendu"⟩,
  ⟨"shm", none, "Shahrudi"⟩,
  ⟨"shn", none, "Shan"⟩,
  ⟨"sho", none, "Shanga"⟩,
  ⟨"shp", none, "Shipibo-Conibo"⟩,
  ⟨"shq", none, "Sala"⟩,
  ⟨"shr", none, "Shi"⟩,
  ⟨"shs", none, "Shuswap"⟩,
  ⟨"sht", none, "Shasta"⟩,
  ⟨"shu", none, "Chadian Arabic"⟩,
  ⟨"shv", none, "Shehri"⟩,
  ⟨"shw", none, "Shwai"⟩,
  ⟨"shx", none, "She"⟩,
  ⟨"shy", none, "Tachawit"⟩,
  ⟨"shz", none, "Syenara Senoufo"⟩,
  ⟨"sia", none, "Akkala Sami"⟩,
  ⟨"sib", none, "Sebop"⟩,
  ⟨"sid", none, "Sidamo"⟩,
  ⟨"sie", none, "Simaa"⟩,
  ⟨"sif", none, "Siamou"⟩,
  ⟨"sig", none, "Paasaal"⟩,
  ⟨"sih", none, "Zire"⟩,
  ⟨"sii", none, "Shom Peng"⟩,
  ⟨"sij", none, "Numbami"⟩,
  ⟨"sik", none, "Sikiana"⟩,
  ⟨"sil", none, "Tumulung Sisaala"⟩,
  ⟨"sim", none, "Mende"⟩,
  ⟨"sin", some "si", "Sinhala"⟩,
  ⟨"sip", none, "Sikkimese"⟩,
  ⟨"siq", none, "Sonia"⟩,
  ⟨"sir", none, "Siri"⟩,
  ⟨"sis", none, "Siuslaw"⟩,
  ⟨"siu", none, "Sinagen"⟩,
  ⟨"siv", none, "Sumariup"⟩,
  ⟨"siw", none, "Siwai"⟩,
  ⟨"six", none, "Sumau"⟩,
  ⟨"siy", none, "Sivandi"⟩,
  ⟨"siz", none, "Siwi"⟩,
  ⟨"sja", none, "Epena"⟩,
  ⟨"sjb", none, "Sajau Basap"⟩,
  ⟨"sjd", none, "Kildin Sami"⟩,
  ⟨"sje", none, "Pite Sami"⟩,
  ⟨"sjg", none, "Assangori"⟩,
  ⟨"sjk", none, "Kemi Sami"⟩,
  ⟨"sjl", none, "Sajalong"⟩,
  ⟨"sjm", none, "Mapun"⟩,
  ⟨"sjo", none, "Xibe"⟩,
  ⟨"sjp", none, "Surjapuri"⟩,
  ⟨"sjr", none, "Siar-Lak"⟩,
  ⟨"sjs", none, "Senhaja De Srair"⟩,
  ⟨"sjt", none, "Ter Sami"⟩,
  ⟨"sju", none, "Ume Sami"⟩,
  ⟨"sjw", none, "Shawnee"⟩,
  ⟨"ska", none, "Skagit"⟩,
  ⟨"skb", none, "Saek"⟩,
  ⟨"skc", none, "Ma Manda"⟩,
  ⟨"skd", none, "Southern Sierra Miwok"⟩,
  ⟨"ske", none, "Seke"⟩,
  ⟨"skf", none, "Sakirabiá"⟩,
  ⟨"skg", none, "Sakalava Malagasy"⟩,
  ⟨"skh", none, "Sikule"⟩,
  ⟨"ski", none, "Sika"⟩,
  ⟨"skj", none, "Seke"⟩,
  ⟨"skm", none, "Kutong"⟩,
  ⟨"skn", none, "Kolibugan Subanon"⟩,
  ⟨"sko", none, "Seko Tengah"⟩,
  ⟨"skp", none, "Sekapan"⟩,
  ⟨"skq", none, "Sininkere"⟩,
  ⟨"skr", none, "Saraiki"⟩,
  ⟨"sks", none, "Maia"⟩,
  ⟨"skt", none, "Sakata"⟩,
  ⟨"sku", none, "Sakao"⟩,
  ⟨"skv", none, "Skou"⟩,
  ⟨"skw", none, "Skepi Creole Dutch"⟩,
  ⟨"skx", none, "Seko Padang"⟩,
  ⟨"sky", none, "Sikaiana"⟩,
  ⟨"skz", none, "Sekar"⟩,
  ⟨"slc", none, "Sáliba"⟩,
  ⟨"sld", none, "Sissala"⟩,
  ⟨"sle", none, "Sholaga"⟩,
  ⟨"slf", none, "Swiss-Italian Sign Language"⟩,
  ⟨"slg", none, "Selungai Murut"⟩,
  ⟨"slh", none, "Southern Puget Sound Salish"⟩,
  ⟨"sli", none, "Lower Silesian"⟩,
  ⟨"slj", none, "Salumá"⟩,
  ⟨"slk", some "sk", "Slovak"⟩,
  ⟨"sll", none, "Salt-Yui"⟩,
  ⟨"slm", none, "Pangutaran Sama"⟩,
  ⟨"sln", none, "Salinan"⟩,
  ⟨"slp", none, "Lamaholot"⟩,
  ⟨"slr", none, "Salar"⟩,
  ⟨"sls", none, "Singapore Sign Language"⟩,
  ⟨"slt", none, "Sila"⟩,
  ⟨"slu", none, "Selaru"⟩,
  ⟨"slv", some "sl", "Slovenian"⟩,
  ⟨"slw", none, "Sialum"⟩,
  ⟨"slx", none, "Salampasu"⟩,
  ⟨"sly", none, "Selayar"⟩,
  ⟨"slz", none, "Ma'ya"⟩,
  ⟨"sma", none, "Southern Sami"⟩,
  ⟨"smb", none, "Simbari"⟩,
  ⟨"smc", none, "Som"⟩,
  ⟨"sme", some "se", "Northern Sami"⟩,
  ⟨"smf", none, "Auwe"⟩,
  ⟨"smg", none, "Simbali"⟩,
  ⟨"smh", none, "Samei"⟩,
  ⟨"smj", none, "Lule Sami"⟩,
  ⟨"smk", none, "Bolinao"⟩,
  ⟨"sml", none, "Central Sama"⟩,
  ⟨"smm", none, "Musasa"⟩,
  ⟨"smn", none, "Inari Sami"⟩,
  ⟨"smo", some "sm", "Samoan"⟩,
  ⟨"smp", none, "Samaritan"⟩,
  ⟨"smq", none, "Samo"⟩,
  ⟨"smr", none, "Simeulue"⟩,
  ⟨"sms", none, "Skolt Sami"⟩,
  ⟨"smt", none, "Simte"⟩,
  ⟨"smu", none, "Somray"⟩,
  ⟨"smv", none, "Samvedi"⟩,
  ⟨"smw", none, "Sumbawa"⟩,
  ⟨"smx", none, "Samba"⟩,
  ⟨"smy", none, "Semnani"⟩,
  ⟨"smz", none, "Simeku"⟩,
  ⟨"sna", some "sn", "Shona"⟩,
  ⟨"snc", none, "Sinaugoro"⟩,
  ⟨"snd", some "sd", "Sindhi"⟩,
  ⟨"sne", none, "Bau Bidayuh"⟩,
  ⟨"snf", none, "Noon"⟩,
  ⟨"sng", none, "Sanga"⟩,
  ⟨"sni", none, "Sensi"⟩,
  ⟨"snj", none, "Riverain Sango"⟩,
  ⟨"snk", none, "Soninke"⟩,
  ⟨"snl", none, "Sangil"⟩,
  ⟨"snm", none, "Southern Ma'di"⟩,
  ⟨"snn", none, "Siona"⟩,
  ⟨"sno", none, "Snohomish"⟩,
  ⟨"snp", none, "Siane"⟩,
  ⟨"snq", none, "Sangu"⟩,
  ⟨"snr", none, "Sihan"⟩,
  ⟨"sns", none, "South West Bay"⟩,
  ⟨"snu", none, "Senggi"⟩,
  ⟨"snv", none, "Sa'ban"⟩,
  ⟨"snw", none, "Selee"⟩,
  ⟨"snx", none, "Sam"⟩,
  ⟨"sny", none, "Saniyo-Hiyewe"⟩,
  ⟨"snz", none, "Kou"⟩,
  ⟨"soa", none, "Thai Song"⟩,
  ⟨"sob", none, "Sobei"⟩,
  ⟨"soc", none, "So"⟩,
  ⟨"sod", none, "Songoora"⟩,
  ⟨"soe", none, "Songomeno"⟩,
  ⟨"sog", none, "Sogdian"⟩,
  ⟨"soh", none, "Aka"⟩,
  ⟨"soi", none, "Sonha"⟩,
  ⟨"soj", none, "Soi"⟩,
  ⟨"sok", none, "Sokoro"⟩,
  ⟨"sol", none, "Solos"⟩,
  ⟨"som", some "so", "Somali"⟩,
  ⟨"soo", none, "Songo"⟩,
  ⟨"sop", none, "Songe"⟩,
  ⟨"soq", none, "Kanasi"⟩,
  ⟨"sor", none, "Somrai"⟩,
  ⟨"sos", none, "Seeku"⟩,
  ⟨"sot", some "st", "Southern Sotho"⟩,
  ⟨"sou", none, "Southern Thai"⟩,
  ⟨"sov", none, "Sonsorol"⟩,
  ⟨"sow", none, "Sowanda"⟩,
  ⟨"sox", none, "Swo"⟩,
  ⟨"soy", none, "Miyobe"⟩,
  ⟨"soz", none, "Temi"⟩,
  ⟨"spa", some "es", "Spanish"⟩,
  ⟨"spb", none, "Sepa"⟩,
  ⟨"spc", none, "Sapé"⟩,
  ⟨"spd", none, "Saep"⟩,
  ⟨"spe", none, "Sepa"⟩,
  ⟨"spg", none, "Sian"⟩,
  ⟨"spi", none, "Saponi"⟩,
  ⟨"spk", none, "Sengo"⟩,
  ⟨"spl", none, "Selepet"⟩,
  ⟨"spm", none, "Akukem"⟩,
  ⟨"spn", none, "Sanapaná"⟩,
  ⟨"spo", none, "Spokane"⟩,
  ⟨"spp", none, "Supyire Senoufo"⟩,
  ⟨"spq", none, "Loreto-Ucayali Spanish"⟩,
  ⟨"spr", none, "Saparua"⟩,
  ⟨"sps", none, "Saposa"⟩,
  ⟨"spt", none, "Spiti Bhoti"⟩,
  ⟨"spu", none, "Sapuan"⟩,
  ⟨"spv", none, "Sambalpuri"⟩,
  ⟨"spx", none, "South Picene"⟩,
  ⟨"spy", none, "Sabaot"⟩,
  ⟨"sqa", none, "Shama-Sambuga"⟩,
  ⟨"sqh", none, "Shau"⟩,
  ⟨"sqi", some "sq", "Albanian"⟩,
  ⟨"sqk", none, "Albanian Sign Language"⟩,
  ⟨"sqm", none, "Suma"⟩,
  ⟨"sqn", none, "Susquehannock"⟩,
  ⟨"sqo", none, "Sorkhei"⟩,
  ⟨"sqq", none, "Sou"⟩,
  ⟨"sqr", none, "Siculo Arabic"⟩,
  ⟨"sqs", none, "Sri Lankan Sign Language"⟩,
  ⟨"sqt", none, "Soqotri"⟩,
  ⟨"squ", none, "Squamish"⟩,
  ⟨"sqx", none, "Kufr Qassem Sign Language"⟩,
  ⟨"sra", none, "Saruga"⟩,
  ⟨"srb", none, "Sora"⟩,
  ⟨"src", none, "Logudorese Sardinian"⟩,
  ⟨"srd", some "sc", "Sardinian"⟩,
  ⟨"sre", none, "Sara"⟩,
  ⟨"srf", none, "Nafi"⟩,
  ⟨"srg", none, "Sulod"⟩,
  ⟨"srh", none, "Sarikoli"⟩,
  ⟨"sri", none, "Siriano"⟩,
  ⟨"srk", none, "Serudung Murut"⟩,
  ⟨"srl", none, "Isirawa"⟩,
  ⟨"srm", none, "Saramaccan"⟩,
  ⟨"srn", none, "Sranan Tongo"⟩,
  ⟨"sro", none, "Campidanese Sardinian"⟩,
  ⟨"srp", some "sr", "Serbian"⟩,
  ⟨"srq", none, "Sirionó"⟩,
  ⟨"srr", none, "Serer"⟩,
  ⟨"srs", none, "Sarsi"⟩,
  ⟨"srt", none, "Sauri"⟩,
  ⟨"sru", none, "Suruí"⟩,
  ⟨"srv", none, "Southern Sorsoganon"⟩,
  ⟨"srw", none, "Serua"⟩,
  ⟨"srx", none, "Sirmauri"⟩,
  ⟨"sry", none, "Sera"⟩,
  ⟨"srz", none, "Shahmirzadi"⟩,
  ⟨"ssb", none, "Southern Sama"⟩,
  ⟨"ssc", none, "Suba-Simbiti"⟩,
  ⟨"ssd", none, "Siroi"⟩,
  ⟨"sse", none, "Balangingi"⟩,
  ⟨"ssf", none, "Thao"⟩,
  ⟨"ssg", none, "Seimat"⟩,
  ⟨"ssh", none, "Shihhi Arabic"⟩,
  ⟨"ssi", none, "Sansi"⟩,
  ⟨"ssj", none, "Sausi"⟩,
  ⟨"ssk", none, "Sunam"⟩,
  ⟨"ssl", none, "Western Sisaala"⟩,
  ⟨"ssm", none, "Semnam"⟩,
  ⟨"ssn", none, "Waata"⟩,
  ⟨"sso", none, "Sissano"⟩,
  ⟨"ssp", none, "Spanish Sign Language"⟩,
  ⟨"ssq", none, "So'a"⟩,
  ⟨"ssr", none, "Swiss-French Sign Language"⟩,
  ⟨"sss", none, "Sô"⟩,
  ⟨"sst", none, "Sinasina"⟩,
  ⟨"ssu", none, "Susuami"⟩,
  ⟨"ssv", none, "Shark Bay"⟩,
  ⟨"ssw", some "ss", "Swati"⟩,
  ⟨"ssx", none, "Samberigi"⟩,
  ⟨"ssy", none, "Saho"⟩,
  ⟨"ssz", none, "Sengseng"⟩,
  ⟨"sta", none, "Settla"⟩,
  ⟨"stb", none, "Northern Subanen"⟩,
  ⟨"std", none, "Sentinel"⟩,
  ⟨"ste", none, "Liana-Seti"⟩,
  ⟨"stf", none, "Seta"⟩,
  ⟨"stg", none, "Trieng"⟩,
  ⟨"sth", none, "Shelta"⟩,
  ⟨"sti", none, "Bulo Stieng"⟩,
  ⟨"stj", none, "Matya Samo"⟩,
  ⟨"stk", none, "Arammba"⟩,
  ⟨"stl", none, "Stellingwerfs"⟩,
  ⟨"stm", none, "Setaman"⟩,
  ⟨"stn", none, "Owa"⟩,
  ⟨"sto", none, "Stoney"⟩,
  ⟨"stp", none, "Southeastern Tepehuan"⟩,
  ⟨"stq", none, "Saterfriesisch"⟩,
  ⟨"str", none, "Straits Salish"⟩,
  ⟨"sts", none, "Shumashti"⟩,
  ⟨"stt", none, "Budeh Stieng"⟩,
  ⟨"stu", none, "Samtao"⟩,
  ⟨"stv", none, "Silt'e"⟩,
  ⟨"stw", none, "Satawalese"⟩,
  ⟨"sty", none, "Siberian Tatar"⟩,
  ⟨"sua", none, "Sulka"⟩,
  ⟨"sub", none, "Suku"⟩,
  ⟨"suc", none, "Western Subanon"⟩,
  ⟨"sue", none, "Suena"⟩,
  ⟨"sug", none, "Suganga"⟩,
  ⟨"sui", none, "Suki"⟩,
  ⟨"suj", none, "Shubi"⟩,
  ⟨"suk", none, "Sukuma"⟩,
  ⟨"sun", some "su", "Sundanese"⟩,
  ⟨"suo", none, "Bouni"⟩,
  ⟨"suq", none, "Tirmaga-Chai Suri"⟩,
  ⟨"sur", none, "Mwaghavul"⟩,
  ⟨"sus", none, "Susu"⟩,
  ⟨"sut", none, "Subtiaba"⟩,
  ⟨"suv", none, "Puroik"⟩,
  ⟨"suw", none, "Sumbwa"⟩,
  ⟨"sux", none, "Sumerian"⟩,
  ⟨"suy", none, "Suyá"⟩,
  ⟨"suz", none, "Sunwar"⟩,
  ⟨"sva", none, "Svan"⟩,
  ⟨"svb", none, "Ulau-Suain"⟩,
  ⟨"svc", none, "Vincentian Creole English"⟩,
  ⟨"sve", none, "Serili"⟩,
  ⟨"svk", none, "Slovakian Sign Language"⟩,
  ⟨"svm", none, "Slavomolisano"⟩,
  ⟨"svs", none, "Savosavo"⟩,
  ⟨"svx", none, "Skalvian"⟩,
  ⟨"swa", some "sw", "Swahili"⟩,
  ⟨"swb", none, "Maore Comorian"⟩,
  ⟨"swc", none, "Congo Swahili"⟩,
  ⟨"swe", some "sv", "Swedish"⟩,
  ⟨"swf", none, "Sere"⟩,
  ⟨"swg", none, "Swabian"⟩,
  ⟨"swh", none, "Swahili"⟩,
  ⟨"swi", none, "Sui"⟩,
  ⟨"swj", none, "Sira"⟩,
  ⟨"swk", none, "Malawi Sena"⟩,
  ⟨"swl", none, "Swedish Sign Language"⟩,
  ⟨"swm", none, "Samosa"⟩,
  ⟨"swn", none, "Sawknah"⟩,
  ⟨"swo", none, "Shanenawa"⟩,
  ⟨"swp", none, "Suau"⟩,
  ⟨"swq", none, "Sharwa"⟩,
  ⟨"swr", none, "Saweru"⟩,
  ⟨"sws", none, "Seluwasan"⟩,
  ⟨"swt", none, "Sawila"⟩,
  ⟨"swu", none, "Suwawa"⟩,
  ⟨"swv", none, "Shekhawati"⟩,
  ⟨"sww", none, "Sowa"⟩,
  ⟨"swx", none, "Suruahá"⟩,
  ⟨"swy", none, "Sarua"⟩,
  ⟨"sxb", none, "Suba"⟩,
  ⟨"sxc", none, "Sicanian"⟩,
  ⟨"sxe", none, "Sighu"⟩,
  ⟨"sxg", none, "Shuhi"⟩,
  ⟨"sxk", none, "Southern Kalapuya"⟩,
  ⟨"sxl", none, "Selian"⟩,
  ⟨"sxm", none, "Samre"⟩,
  ⟨"sxn", none, "Sangir"⟩,
  ⟨"sxo", none, "Sorothaptic"⟩,
  ⟨"sxr", none, "Saaroa"⟩,
  ⟨"sxs", none, "Sasaru"⟩,
  ⟨"sxu", none, "Upper Saxon"⟩,
  ⟨"sxw", none, "Saxwe Gbe"⟩,
  ⟨"sya", none, "Siang"⟩,
  ⟨"syb", none, "Central Subanen"⟩,
  ⟨"syc", none, "Classical Syriac"⟩,
  ⟨"syi", none, "Seki"⟩,
  ⟨"syk", none, "Sukur"⟩,
  ⟨"syl", none, "Sylheti"⟩,
  ⟨"sym", none, "Maya Samo"⟩,
  ⟨"syn", none, "Senaya"⟩,
  ⟨"syo", none, "Suoy"⟩,
  ⟨"syr", none, "Syriac"⟩,
  ⟨"sys", none, "Sinyar"⟩,
  ⟨"syw", none, "Kagate"⟩,
  ⟨"syx", none, "Samay"⟩,
  ⟨"syy", none, "Al-Sayyid Bedouin Sign Language"⟩,
  ⟨"sza", none, "Semelai"⟩,
  ⟨"szb", none, "Ngalum"⟩,
  ⟨"szc", none, "Semaq Beri"⟩,
  ⟨"szd", none, "Seru"⟩,
  ⟨"sze", none, "Seze"⟩,
  ⟨"szg", none, "Sengele"⟩,
  ⟨"szl", none, "Silesian"⟩,
  ⟨"szn", none, "Sula"⟩,
  ⟨"szp", none, "Suabo"⟩,
  ⟨"szs", none, "Solomon Islands Sign Language"⟩,
  ⟨"szv", none, "Isu"⟩,
  ⟨"szw", none, "Sawai"⟩,
  ⟨"szy", none, "Sakizaya"⟩]

/-- The languages whose three-letter code starts with `t`, in code order. -/
def entriesT : List Entry := [
  ⟨"taa", none, "Lower Tanana"⟩,
  ⟨"tab", none, "Tabassaran"⟩,
  ⟨"tac", none, "Lowland Tarahumara"⟩,
  ⟨"tad", none, "Tause"⟩,
  ⟨"tae", none, "Tariana"⟩,
  ⟨"taf", none, "Tapirapé"⟩,
  ⟨"tag", none, "Tagoi"⟩,
  ⟨"tah", some "ty", "Tahitian"⟩,
  ⟨"taj", none, "Eastern Tamang"⟩,
  ⟨"tak", none, "Tala"⟩,
  ⟨"tal", none, "Tal"⟩,
  ⟨"tam", some "ta", "Tamil"⟩,
  ⟨"tan", none, "Tangale"⟩,
  ⟨"tao", none, "Yami"⟩,
  ⟨"tap", none, "Taabwa"⟩,
  ⟨"taq", none, "Tamasheq"⟩,
  ⟨"tar", none, "Central Tarahumara"⟩,
  ⟨"tas", none, "Tay Boi"⟩,
  ⟨"tat", some "tt", "Tatar"⟩,
  ⟨"tau", none, "Upper Tanana"⟩,
  ⟨"tav", none, "Tatuyo"⟩,
  ⟨"taw", none, "Tai"⟩,
  ⟨"tax", none, "Tamki"⟩,
  ⟨"tay", none, "Atayal"⟩,
  ⟨"taz", none, "Tocho"⟩,
  ⟨"tba", none, "Aikanã"⟩,
  ⟨"tbc", none, "Takia"⟩,
  ⟨"tbd", none, "Kaki Ae"⟩,
  ⟨"tbe", none, "Tanimbili"⟩,
  ⟨"tbf", none, "Mandara"⟩,
  ⟨"tbg", none, "North Tairora"⟩,
  ⟨"tbh", none, "Dharawal"⟩,
  ⟨"tbi", none, "Gaam"⟩,
  ⟨"tbj", none, "Tiang"⟩,
  ⟨"tbk", none, "Calamian Tagbanwa"⟩,
  ⟨"tbl", none, "Tboli"⟩,
  ⟨"tbm", none, "Tagbu"⟩,
  ⟨"tbn", none, "Barro Negro Tunebo"⟩,
  ⟨"tbo", none, "Tawala"⟩,
  ⟨"tbp", none, "Taworta"⟩,
  ⟨"tbr", none, "Tumtum"⟩,
  ⟨"tbs", none, "Tanguat"⟩,
  ⟨"tbt", none, "Tembo"⟩,
  ⟨"tbu", none, "Tubar"⟩,
  ⟨"tbv", none, "Tobo"⟩,
  ⟨"tbw", none, "Tagbanwa"⟩,
  ⟨"tbx", none, "Kapin"⟩,
  ⟨"tby", none, "Tabaru"⟩,
  ⟨"tbz", none, "Ditammari"⟩,
  ⟨"tca", none, "Ticuna"⟩,
  ⟨"tcb", none, "Tanacross"⟩,
  ⟨"tcc", none, "Datooga"⟩,
  ⟨"tcd", none, "Tafi"⟩,
  ⟨"tce", none, "Southern Tutchone"⟩,
  ⟨"tcf", none, "Malinaltepec Me'phaa"⟩,
  ⟨"tcg", none, "Tamagario"⟩,
  ⟨"tch", none, "Turks And Caicos Creole English"⟩,
  ⟨"tci", none, "Wára"⟩,
  ⟨"tck", none, "Tchitchege"⟩,
  ⟨"tcl", none, "Taman"⟩,
  ⟨"tcm", none, "Tanahmerah"⟩,
  ⟨"tcn", none, "Tichurong"⟩,
  ⟨"tco", none, "Taungyo"⟩,
  ⟨"tcp", none, "Tawr Chin"⟩,
  ⟨"tcq", none, "Kaiy"⟩,
  ⟨"tcs", none, "Torres Strait Creole"⟩,
  ⟨"tct", none, "T'en"⟩,
  ⟨"tcu", none, "Southeastern Tarahumara"⟩,
  ⟨"tcw", none, "Tecpatlán Totonac"⟩,
  ⟨"tcx", none, "Toda"⟩,
  ⟨"tcy", none, "Tulu"⟩,
  ⟨"tcz", none, "Thado Chin"⟩,
  ⟨"tda", none, "Tagdal"⟩,
  ⟨"tdb", none, "Panchpargania"⟩,
  ⟨"tdc", none, "Emberá-Tadó"⟩,
  ⟨"tdd", none, "Tai Nüa"⟩,
  ⟨"tde", none, "Tiranige Diga Dogon"⟩,
  ⟨"tdf", none, "Talieng"⟩,
  ⟨"tdg", none, "Western Tamang"⟩,
  ⟨"tdh", none, "Thulung"⟩,
  ⟨"tdi", none, "Tomadino"⟩,
  ⟨"tdj", none, "Tajio"⟩,
  ⟨"tdk", none, "Tambas"⟩,
  ⟨"tdl", none, "Sur"⟩,
  ⟨"tdm", none, "Taruma"⟩,
  ⟨"tdn", none, "Tondano"⟩,
  ⟨"tdo", none, "Teme"⟩,
  ⟨"tdq", none, "Tita"⟩,
  ⟨"tdr", none, "Todrah"⟩,
  ⟨"tds", none, "Doutai"⟩,
  ⟨"tdt", none, "Tetun Dili"⟩,
  ⟨"tdv", none, "Toro"⟩,
  ⟨"tdx", none, "Tandroy-Mahafaly Malagasy"⟩,
  ⟨"tdy", none, "Tadyawan"⟩,
  ⟨"tea", none, "Temiar"⟩,
  ⟨"teb", none, "Tetete"⟩,
  ⟨"tec", none, "Terik"⟩,
  ⟨"ted", none, "Tepo Krumen"⟩,
  ⟨"tee", none, "Huehuetla Tepehua"⟩,
  ⟨"tef", none, "Teressa"⟩,
  ⟨"teg", none, "Teke-Tege"⟩,
  ⟨"teh", none, "Tehuelche"⟩,
  ⟨"tei", none, "Torricelli"⟩,
  ⟨"tek", none, "Ibali Teke"⟩,
  ⟨"tel", some "te", "Telugu"⟩,
  ⟨"tem", none, "Timne"⟩,
  ⟨"ten", none, "Tama"⟩,
  ⟨"teo", none, "Teso"⟩,
  ⟨"tep", none, "Tepecano"⟩,
  ⟨"teq", none, "Temein"⟩,
  ⟨"ter", none, "Tereno"⟩,
  ⟨"tes", none, "Tengger"⟩,
  ⟨"tet", none, "Tetum"⟩,
  ⟨"teu", none, "Soo"⟩,
  ⟨"tev", none, "Teor"⟩,
  ⟨"tew", none, "Tewa"⟩,
  ⟨"tex", none, "Tennet"⟩,
  ⟨"tey", none, "Tulishi"⟩,
  ⟨"tez", none, "Tetserret"⟩,
  ⟨"tfi", none, "Tofin Gbe"⟩,
  ⟨"tfn", none, "Tanaina"⟩,
  ⟨"tfo", none, "Tefaro"⟩,
  ⟨"tfr", none, "Teribe"⟩,
  ⟨"tft", none, "Ternate"⟩,
  ⟨"tga", none, "Sagalla"⟩,
  ⟨"tgb", none, "Tobilung"⟩,
  ⟨"tgc", none, "Tigak"⟩,
  ⟨"tgd", none, "Ciwogai"⟩,
  ⟨"tge", none, "Eastern Gorkha Tamang"⟩,
  ⟨"tgf", none, "Chalikha"⟩,
  ⟨"tgh", none, "Tobagonian Creole English"⟩,
  ⟨"tgi", none, "Lawunuia"⟩,
  ⟨"tgj", none, "Tagin"⟩,
  ⟨"tgk", some "tg", "Tajik"⟩,
  ⟨"tgl", some "tl", "Tagalog"⟩,
  ⟨"tgn", none, "Tandaganon"⟩,
  ⟨"tgo", none, "Sudest"⟩,
  ⟨"tgp", none, "Tangoa"⟩,
  ⟨"tgq", none, "Tring"⟩,
  ⟨"tgr", none, "Tareng"⟩,
  ⟨"tgs", none, "Nume"⟩,
  ⟨"tgt", none, "Central Tagbanwa"⟩,
  ⟨"tgu", none, "Tanggu"⟩,
  ⟨"tgv", none, "Tingui-Boto"⟩,
  ⟨"tgw", none, "Tagwana Senoufo"⟩,
  ⟨"tgx", none, "Tagish"⟩,
  ⟨"tgy", none, "Togoyo"⟩,
  ⟨"tgz", none, "Tagalaka"⟩,
  ⟨"tha", some "th", "Thai"⟩,
  ⟨"thd", none, "Kuuk Thaayorre"⟩,
  ⟨"the", none, "Chitwania Tharu"⟩,
  ⟨"thf", none, "Thangmi"⟩,
  ⟨"thh", none, "Northern Tarahumara"⟩,
  ⟨"thi", none, "Tai Long"⟩,
  ⟨"thk", none, "Tharaka"⟩,
  ⟨"thl", none, "Dangaura Tharu"⟩,
  ⟨"thm", none, "Aheu"⟩,
  ⟨"thn", none, "Thachanadan"⟩,
  ⟨"thp", none, "Thompson"⟩,
  ⟨"thq", none, "Kochila Tharu"⟩,
  ⟨"thr", none, "Rana Tharu"⟩,
  ⟨"ths", none, "Thakali"⟩,
  ⟨"tht", none, "Tahltan"⟩,
  ⟨"thu", none, "Thuri"⟩,
  ⟨"thv", none, "Tahaggart Tamahaq"⟩,
  ⟨"thy", none, "Tha"⟩,
  ⟨"thz", none, "Tayart Tamajeq"⟩,
  ⟨"tia", none, "Tidikelt Tamazight"⟩,
  ⟨"tic", none, "Tira"⟩,
  ⟨"tif", none, "Tifal"⟩,
  ⟨"tig", none, "Tigre"⟩,
  ⟨"tih", none, "Timugon Murut"⟩,
  ⟨"tii", none, "Tiene"⟩,
  ⟨"tij", none, "Tilung"⟩,
  ⟨"tik", none, "Tikar"⟩,
  ⟨"til", none, "Tillamook"⟩,
  ⟨"tim", none, "Timbe"⟩,
  ⟨"tin", none, "Tindi"⟩,
  ⟨"tio", none, "Teop"⟩,
  ⟨"tip", none, "Trimuris"⟩,
  ⟨"tiq", none, "Tiéfo"⟩,
  ⟨"tir", some "ti", "Tigrinya"⟩,
  ⟨"tis", none, "Masadiit Itneg"⟩,
  ⟨"tit", none, "Tinigua"⟩,
  ⟨"tiu", none, "Adasen"⟩,
  ⟨"tiv", none, "Tiv"⟩,
  ⟨"tiw", none, "Tiwi"⟩,
  ⟨"tix", none, "Southern Tiwa"⟩,
  ⟨"tiy", none, "Tiruray"⟩,
  ⟨"tiz", none, "Tai Hongjin"⟩,
  ⟨"tja", none, "Tajuasohn"⟩,
  ⟨"tjg", none, "Tunjung"⟩,
  ⟨"tji", none, "Northern Tujia"⟩,
  ⟨"tjj", none, "Tjungundji"⟩,
  ⟨"tjl", none, "Tai Laing"⟩,
  ⟨"tjm", none, "Timucua"⟩,
  ⟨"tjn", none, "Tonjon"⟩,
  ⟨"tjo", none, "Temacine Tamazight"⟩,
  ⟨"tjp", none, "Tjupany"⟩,
  ⟨"tjs", none, "Southern Tujia"⟩,
  ⟨"tju", none, "Tjurruru"⟩,
  ⟨"tjw", none, "Djabwurrung"⟩,
  ⟨"tka", none, "Truká"⟩,
  ⟨"tkb", none, "Buksa"⟩,
  ⟨"tkd", none, "Tukudede"⟩,
  ⟨"tke", none, "Takwane"⟩,
  ⟨"tkf", none, "Tukumanféd"⟩,
  ⟨"tkg", none, "Tesaka Malagasy"⟩,
  ⟨"tkl", none, "Tokelau"⟩,
  ⟨"tkm", none, "Takelma"⟩,
  ⟨"tkn", none, "Toku-No-Shima"⟩,
  ⟨"tkp", none, "Tikopia"⟩,
  ⟨"tkq", none, "Tee"⟩,
  ⟨"tkr", none, "Tsakhur"⟩,
  ⟨"tks", none, "Takestani"⟩,
  ⟨"tkt", none, "Kathoriya Tharu"⟩,
  ⟨"tku", none, "Upper Necaxa Totonac"⟩,
  ⟨"tkv", none, "Mur Pano"⟩,
  ⟨"tkw", none, "Teanu"⟩,
  ⟨"tkx", none, "Tangko"⟩,
  ⟨"tkz", none, "Takua"⟩,
  ⟨"tla", none, "Southwestern Tepehuan"⟩,
  ⟨"tlb", none, "Tobelo"⟩,
  ⟨"tlc", none, "Yecuatla Totonac"⟩,
  ⟨"tld", none, "Talaud"⟩,
  ⟨"tlf", none, "Telefol"⟩,
  ⟨"tlg", none, "Tofanma"⟩,
  ⟨"tlh", none, "Klingon"⟩,
  ⟨"tli", none, "Tlingit"⟩,
  ⟨"tlj", none, "Talinga-Bwisi"⟩,
  ⟨"tlk", none, "Taloki"⟩,
  ⟨"tll", none, "Tetela"⟩,
  ⟨"tlm", none, "Tolomako"⟩,
  ⟨"tln", none, "Talondo'"⟩,
  ⟨"tlo", none, "Talodi"⟩,
  ⟨"tlp", none, "Filomena Mata-Coahuitlán Totonac"⟩,
  ⟨"tlq", none, "Tai Loi"⟩,
  ⟨"tlr", none, "Talise"⟩,
  ⟨"tls", none, "Tambotalo"⟩,
  ⟨"tlt", none, "Sou Nama"⟩,
  ⟨"tlu", none, "Tulehu"⟩,
  ⟨"tlv", none, "Taliabu"⟩,
  ⟨"tlx", none, "Khehek"⟩,
  ⟨"tly", none, "Talysh"⟩,
  ⟨"tma", none, "Tama"⟩,
  ⟨"tmb", none, "Katbol"⟩,
  ⟨"tmc", none, "Tumak"⟩,
  ⟨"tmd", none, "Haruai"⟩,
  ⟨"tme", none, "Tremembé"⟩,
  ⟨"tmf", none, "Toba-Maskoy"⟩,
  ⟨"tmg", none, "Ternateño"⟩,
  ⟨"tmh", none, "Tamashek"⟩,
  ⟨"tmi", none, "Tutuba"⟩,
  ⟨"tmj", none, "Samarokena"⟩,
  ⟨"tml", none, "Tamnim Citak"⟩,
  ⟨"tmm", none, "Tai Thanh"⟩,
  ⟨"tmn", none, "Taman"⟩,
  ⟨"tmo", none, "Temoq"⟩,
  ⟨"tmq", none, "Tumleo"⟩,
  ⟨"tmr", none, "Jewish Babylonian Aramaic"⟩,
  ⟨"tms", none, "Tima"⟩,
  ⟨"tmt", none, "Tasmate"⟩,
  ⟨"tmu", none, "Iau"⟩,
  ⟨"tmv", none, "Tembo"⟩,
  ⟨"tmw", none, "Temuan"⟩,
  ⟨"tmy", none, "Tami"⟩,
  ⟨"tmz", none, "Tamanaku"⟩,
  ⟨"tna", none, "Tacana"⟩,
  ⟨"tnb", none, "Western Tunebo"⟩,
  ⟨"tnc", none, "Tanimuca-Retuarã"⟩,
  ⟨"tnd", none, "Angosturas Tunebo"⟩,
  ⟨"tng", none, "Tobanga"⟩,
  ⟨"tnh", none, "Maiani"⟩,
  ⟨"tni", none, "Tandia"⟩,
  ⟨"tnk", none, "Kwamera"⟩,
  ⟨"tnl", none, "Lenakel"⟩,
  ⟨"tnm", none, "Tabla"⟩,
  ⟨"tnn", none, "North Tanna"⟩,
  ⟨"tno", none, "Toromono"⟩,
  ⟨"tnp", none, "Whitesands"⟩,
  ⟨"tnq", none, "Taino"⟩,
  ⟨"tnr", none, "Ménik"⟩,
  ⟨"tns", none, "Tenis"⟩,
  ⟨"tnt", none, "Tontemboan"⟩,
  ⟨"tnu", none, "Tay Khang"⟩,
  ⟨"tnv", none, "Tangchangya"⟩,
  ⟨"tnw", none, "Tonsawang"⟩,
  ⟨"tnx", none, "Tanema"⟩,
  ⟨"tny", none, "Tongwe"⟩,
  ⟨"tnz", none, "Ten'edn"⟩,
  ⟨"tob", none, "Toba"⟩,
  ⟨"toc", none, "Coyutla Totonac"⟩,
  ⟨"tod", none, "Toma"⟩,
  ⟨"tof", none, "Gizrra"⟩,
  ⟨"tog", none, "Tonga"⟩,
  ⟨"toh", none, "Gitonga"⟩,
  ⟨"toi", none, "Tonga"⟩,
  ⟨"toj", none, "Tojolabal"⟩,
  ⟨"tok", none, "Toki Pona"⟩,
  ⟨"tol", none, "Tolowa"⟩,
  ⟨"tom", none, "Tombulu"⟩,
  ⟨"ton", some "to", "Tonga"⟩,
  ⟨"too", none, "Xicotepec De Juárez Totonac"⟩,
  ⟨"top", none, "Papantla Totonac"⟩,
  ⟨"toq", none, "Toposa"⟩,
  ⟨"tor", none, "Togbo-Vara Banda"⟩,
  ⟨"tos", none, "Highland Totonac"⟩,
  ⟨"tou", none, "Tho"⟩,
  ⟨"tov", none, "Upper Taromi"⟩,
  ⟨"tow", none, "Jemez"⟩,
  ⟨"tox", none, "Tobian"⟩,
  ⟨"toy", none, "Topoiyo"⟩,
  ⟨"toz", none, "To"⟩,
  ⟨"tpa", none, "Taupota"⟩,
  ⟨"tpc", none, "Azoyú Me'phaa"⟩,
  ⟨"tpe", none, "Tippera"⟩,
  ⟨"tpf", none, "Tarpia"⟩,
  ⟨"tpg", none, "Kula"⟩,
  ⟨"tpi", none, "Tok Pisin"⟩,
  ⟨"tpj", none, "Tapieté"⟩,
  ⟨"tpk", none, "Tupinikin"⟩,
  ⟨"tpl", none, "Tlacoapa Me'phaa"⟩,
  ⟨"tpm", none, "Tampulma"⟩,
  ⟨"tpn", none, "Tupinambá"⟩,
  ⟨"tpo", none, "Tai Pao"⟩,
  ⟨"tpp", none, "Pisaflores Tepehua"⟩,
  ⟨"tpq", none, "Tukpa"⟩,
  ⟨"tpr", none, "Tuparí"⟩,
  ⟨"tpt", none, "Tlachichilco Tepehua"⟩,
  ⟨"tpu", none, "Tampuan"⟩,
  ⟨"tpv", none, "Tanapag"⟩,
  ⟨"tpw", none, "Tupí"⟩,
  ⟨"tpx", none, "Acatepec Me'phaa"⟩,
  ⟨"tpy", none, "Trumai"⟩,
  ⟨"tpz", none, "Tinputz"⟩,
  ⟨"tqb", none, "Tembé"⟩,
  ⟨"tql", none, "Lehali"⟩,
  ⟨"tqm", none, "Turumsa"⟩,
  ⟨"tqn", none, "Tenino"⟩,
  ⟨"tqo", none, "Toaripi"⟩,
  ⟨"tqp", none, "Tomoip"⟩,
  ⟨"tqq", none, "Tunni"⟩,
  ⟨"tqr", none, "Torona"⟩,
  ⟨"tqt", none, "Western Totonac"⟩,
  ⟨"tqu", none, "Touo"⟩,
  ⟨"tqw", none, "Tonkawa"⟩,
  ⟨"tra", none, "Tirahi"⟩,
  ⟨"trb", none, "Terebu"⟩,
  ⟨"trc", none, "Copala Triqui"⟩,
  ⟨"trd", none, "Turi"⟩,
  ⟨"tre", none, "East Tarangan"⟩,
  ⟨"trf", none, "Trinidadian Creole English"⟩,
  ⟨"trg", none, "Lishán Didán"⟩,
  ⟨"trh", none, "Turaka"⟩,
  ⟨"tri", none, "Trió"⟩,
  ⟨"trj", none, "Toram"⟩,
  ⟨"trl", none, "Traveller Scottish"⟩,
  ⟨"trm", none, "Tregami"⟩,
  ⟨"trn", none, "Trinitario"⟩,
  ⟨"tro", none, "Tarao Naga"⟩,
  ⟨"trp", none, "Kok Borok"⟩,
  ⟨"trq", none, "San Martín Itunyoso Triqui"⟩,
  ⟨"trr", none, "Taushiro"⟩,
  ⟨"trs", none, "Chicahuaxtla Triqui"⟩,
  ⟨"trt", none, "Tunggare"⟩,
  ⟨"tru", none, "Turoyo"⟩,
  ⟨"trv", none, "Sediq"⟩,
  ⟨"trw", none, "Torwali"⟩,
  ⟨"trx", none, "Tringgus-Sembaan Bidayuh"⟩,
  ⟨"try", none, "Turung"⟩,
  ⟨"trz", none, "Torá"⟩,
  ⟨"tsa", none, "Tsaangi"⟩,
  ⟨"tsb", none, "Tsamai"⟩,
  ⟨"tsc", none, "Tswa"⟩,
  ⟨"tsd", none, "Tsakonian"⟩,
  ⟨"tse", none, "Tunisian Sign Language"⟩,
  ⟨"tsg", none, "Tausug"⟩,
  ⟨"tsh", none, "Tsuvan"⟩,
  ⟨"tsi", none, "Tsimshian"⟩,
  ⟨"tsj", none, "Tshangla"⟩,
  ⟨"tsk", none, "Tseku"⟩,
  ⟨"tsl", none, "Ts'ün-Lao"⟩,
  ⟨"tsm", none, "Turkish Sign Language"⟩,
  ⟨"tsn", some "tn", "Tswana"⟩,
  ⟨"tso", some "ts", "Tsonga"⟩,
  ⟨"tsp", none, "Northern Toussian"⟩,
  ⟨"tsq", none, "Thai Sign Language"⟩,
  ⟨"tsr", none, "Akei"⟩,
  ⟨"tss", none, "Taiwan Sign Language"⟩,
  ⟨"tst", none, "Tondi Songway Kiini"⟩,
  ⟨"tsu", none, "Tsou"⟩,
  ⟨"tsv", none, "Tsogo"⟩,
  ⟨"tsw", none, "Tsishingini"⟩,
  ⟨"tsx", none, "Mubami"⟩,
  ⟨"tsy", none, "Tebul Sign Language"⟩,
  ⟨"tsz", none, "Purepecha"⟩,
  ⟨"tta", none, "Tutelo"⟩,
  ⟨"ttb", none, "Gaa"⟩,
  ⟨"ttc", none, "Tektiteko"⟩,
  ⟨"ttd", none, "Tauade"⟩,
  ⟨"tte", none, "Bwanabwana"⟩,
  ⟨"ttf", none, "Tuotomb"⟩,
  ⟨"ttg", none, "Tutong"⟩,
  ⟨"tth", none, "Upper Ta'oih"⟩,
  ⟨"tti", none, "Tobati"⟩,
  ⟨"ttj", none, "Tooro"⟩,
  ⟨"ttk", none, "Totoro"⟩,
  ⟨"ttl", none, "Totela"⟩,
  ⟨"ttm", none, "Northern Tutchone"⟩,
  ⟨"ttn", none, "Towei"⟩,
  ⟨"tto", none, "Lower Ta'oih"⟩,
  ⟨"ttp", none, "Tombelala"⟩,
  ⟨"ttq", none, "Tawallammat Tamajaq"⟩,
  ⟨"ttr", none, "Tera"⟩,
  ⟨"tts", none, "Northeastern Thai"⟩,
  ⟨"ttt", none, "Muslim Tat"⟩,
  ⟨"ttu", none, "Torau"⟩,
  ⟨"ttv", none, "Titan"⟩,
  ⟨"ttw", none, "Long Wat"⟩,
  ⟨"tty", none, "Sikaritai"⟩,
  ⟨"ttz", none, "Tsum"⟩,
  ⟨"tua", none, "Wiarumus"⟩,
  ⟨"tub", none, "Tübatulabal"⟩,
  ⟨"tuc", none, "Mutu"⟩,
  ⟨"tud", none, "Tuxá"⟩,
  ⟨"tue", none, "Tuyuca"⟩,
  ⟨"tuf", none, "Central Tunebo"⟩,
  ⟨"tug", none, "Tunia"⟩,
  ⟨"tuh", none, "Taulil"⟩,
  ⟨"tui", none, "Tupuri"⟩,
  ⟨"tuj", none, "Tugutil"⟩,
  ⟨"tuk", some "tk", "Turkmen"⟩,
  ⟨"tul", none, "Tula"⟩,
  ⟨"tum", none, "Tumbuka"⟩,
  ⟨"tun", none, "Tunica"⟩,
  ⟨"tuo", none, "Tucano"⟩,
  ⟨"tuq", none, "Tedaga"⟩,
  ⟨"tur", some "tr", "Turkish"⟩,
  ⟨"tus", none, "Tuscarora"⟩,
  ⟨"tuu", none, "Tututni"⟩,
  ⟨"tuv", none, "Turkana"⟩,
  ⟨"tux", none, "Tuxináwa"⟩,
  ⟨"tuy", none, "Tugen"⟩,
  ⟨"tuz", none, "Turka"⟩,
  ⟨"tva", none, "Vaghua"⟩,
  ⟨"tvd", none, "Tsuvadi"⟩,
  ⟨"tve", none, "Te'un"⟩,
  ⟨"tvk", none, "Southeast Ambrym"⟩,
  ⟨"tvl", none, "Tuvalu"⟩,
  ⟨"tvm", none, "Tela-Masbuar"⟩,
  ⟨"tvn", none, "Tavoyan"⟩,
  ⟨"tvo", none, "Tidore"⟩,
  ⟨"tvs", none, "Taveta"⟩,
  ⟨"tvt", none, "Tutsa Naga"⟩,
  ⟨"tvu", none, "Tunen"⟩,
  ⟨"tvw", none, "Sedoa"⟩,
  ⟨"tvx", none, "Taivoan"⟩,
  ⟨"tvy", none, "Timor Pidgin"⟩,
  ⟨"twa", none, "Twana"⟩,
  ⟨"twb", none, "Western Tawbuid"⟩,
  ⟨"twc", none, "Teshenawa"⟩,
  ⟨"twd", none, "Twents"⟩,
  ⟨"twe", none, "Tewa"⟩,
  ⟨"twf", none, "Northern Tiwa"⟩,
  ⟨"twg", none, "Tereweng"⟩,
  ⟨"twh", none, "Tai Dón"⟩,
  ⟨"twi", some "tw", "Twi"⟩,
  ⟨"twl", none, "Tawara"⟩,
  ⟨"twm", none, "Tawang Monpa"⟩,
  ⟨"twn", none, "Twendi"⟩,
  ⟨"two", none, "Tswapong"⟩,
  ⟨"twp", none, "Ere"⟩,
  ⟨"twq", none, "Tasawaq"⟩,
  ⟨"twr", none, "Southwestern Tarahumara"⟩,
  ⟨"twt", none, "Turiwára"⟩,
  ⟨"twu", none, "Termanu"⟩,
  ⟨"tww", none, "Tuwari"⟩,
  ⟨"twx", none, "Tewe"⟩,
  ⟨"twy", none, "Tawoyan"⟩,
  ⟨"txa", none, "Tombonuo"⟩,
  ⟨"txb", none, "Tokharian B"⟩,
  ⟨"txc", none, "Tsetsaut"⟩,
  ⟨"txe", none, "Totoli"⟩,
  ⟨"txg", none, "Tangut"⟩,
  ⟨"txh", none, "Thracian"⟩,
  ⟨"txi", none, "Ikpeng"⟩,
  ⟨"txj", none, "Tarjumo"⟩,
  ⟨"txm", none, "Tomini"⟩,
  ⟨"txn", none, "West Tarangan"⟩,
  ⟨"txo", none, "Toto"⟩,
  ⟨"txq", none, "Tii"⟩,
  ⟨"txr", none, "Tartessian"⟩,
  ⟨"txs", none, "Tonsea"⟩,
  ⟨"txt", none, "Citak"⟩,
  ⟨"txu", none, "Kayapó"⟩,
  ⟨"txx", none, "Tatana"⟩,
  ⟨"txy", none, "Tanosy Malagasy"⟩,
  ⟨"tya", none, "Tauya"⟩,
  ⟨"tye", none, "Kyanga"⟩,
  ⟨"tyh", none, "O'du"⟩,
  ⟨"tyi", none, "Teke-Tsaayi"⟩,
  ⟨"tyj", none, "Tai Do"⟩,
  ⟨"tyl", none, "Thu Lao"⟩,
  ⟨"tyn", none, "Kombai"⟩,
  ⟨"typ", none, "Thaypan"⟩,
  ⟨"tyr", none, "Tai Daeng"⟩,
  ⟨"tys", none, "Tày Sa Pa"⟩,
  ⟨"tyt", none, "Tày Tac"⟩,
  ⟨"tyu", none, "Kua"⟩,
  ⟨"tyv", none, "Tuvinian"⟩,
  ⟨"tyx", none, "Teke-Tyee"⟩,
  ⟨"tyy", none, "Tiyaa"⟩,
  ⟨"tyz", none, "Tày"⟩,
  ⟨"tza", none, "Tanzanian Sign Language"⟩,
  ⟨"tzh", none, "Tzeltal"⟩,
  ⟨"tzj", none, "Tz'utujil"⟩,
  ⟨"tzm", none, "Central Atlas Tamazight"⟩,
  ⟨"tzn", none, "Tugun"⟩,
  ⟨"tzo", none, "Tzotzil"⟩,
  ⟨"tzx", none, "Tabriak"⟩]

/-- The languages whose three-letter code starts with `u`, in code order. -/
def entriesU : List Entry := [
  ⟨"uam", none, "Uamué"⟩,
  ⟨"uan", none, "Kuan"⟩,
  ⟨"uar", none, "Tairuma"⟩,
  ⟨"uba", none, "Ubang"⟩,
  ⟨"ubi", none, "Ubi"⟩,
  ⟨"ubl", none, "Buhi'non Bikol"⟩,
  ⟨"ubr", none, "Ubir"⟩,
  ⟨"ubu", none, "Umbu-Ungu"⟩,
  ⟨"uby", none, "Ubykh"⟩,
  ⟨"uda", none, "Uda"⟩,
  ⟨"ude", none, "Udihe"⟩,
  ⟨"udg", none, "Muduga"⟩,
  ⟨"udi", none, "Udi"⟩,
  ⟨"udj", none, "Ujir"⟩,
  ⟨"udl", none, "Wuzlam"⟩,
  ⟨"udm", none, "Udmurt"⟩,
  ⟨"udu", none, "Uduk"⟩,
  ⟨"ues", none, "Kioko"⟩,
  ⟨"ufi", none, "Ufim"⟩,
  ⟨"uga", none, "Ugaritic"⟩,
  ⟨"ugb", none, "Kuku-Ugbanh"⟩,
  ⟨"uge", none, "Ughele"⟩,
  ⟨"ugn", none, "Ugandan Sign Language"⟩,
  ⟨"ugo", none, "Ugong"⟩,
  ⟨"ugy", none, "Uruguayan Sign Language"⟩,
  ⟨"uha", none, "Uhami"⟩,
  ⟨"uhn", none, "Damal"⟩,
  ⟨"uig", some "ug", "Uighur"⟩,
  ⟨"uis", none, "Uisai"⟩,
  ⟨"uiv", none, "Iyive"⟩,
  ⟨"uji", none, "Tanjijili"⟩,
  ⟨"uka", none, "Kaburi"⟩,
  ⟨"ukg", none, "Ukuriguma"⟩,
  ⟨"ukh", none, "Ukhwejo"⟩,
  ⟨"uki", none, "Kui"⟩,
  ⟨"ukk", none, "Muak Sa-aak"⟩,
  ⟨"ukl", none, "Ukrainian Sign Language"⟩,
  ⟨"ukp", none, "Ukpe-Bayobiri"⟩,
  ⟨"ukq", none, "Ukwa"⟩,
  ⟨"ukr", some "uk", "Ukrainian"⟩,
  ⟨"uks", none, "Urubú-Kaapor Sign Language"⟩,
  ⟨"uku", none, "Ukue"⟩,
  ⟨"ukv", none, "Kuku"⟩,
  ⟨"ukw", none, "Ukwuani-Aboh-Ndoni"⟩,
  ⟨"uky", none, "Kuuk-Yak"⟩,
  ⟨"ula", none, "Fungwa"⟩,
  ⟨"ulb", none, "Ulukwumi"⟩,
  ⟨"ulc", none, "Ulch"⟩,
  ⟨"ule", none, "Lule"⟩,
  ⟨"ulf", none, "Usku"⟩,
  ⟨"uli", none, "Ulithian"⟩,
  ⟨"ulk", none, "Meriam Mir"⟩,
  ⟨"ull", none, "Ullatan"⟩,
  ⟨"ulm", none, "Ulumanda'"⟩,
  ⟨"uln", none, "Unserdeutsch"⟩,
  ⟨"ulu", none, "Uma' Lung"⟩,
  ⟨"ulw", none, "Ulwa"⟩,
  ⟨"uma", none, "Umatilla"⟩,
  ⟨"umb", none, "Umbundu"⟩,
  ⟨"umc", none, "Marrucinian"⟩,
  ⟨"umd", none, "Umbindhamu"⟩,
  ⟨"umg", none, "Morrobalama"⟩,
  ⟨"umi", none, "Ukit"⟩,
  ⟨"umm", none, "Umon"⟩,
  ⟨"umn", none, "Makyan Naga"⟩,
  ⟨"umo", none, "Umotína"⟩,
  ⟨"ump", none, "Umpila"⟩,
  ⟨"umr", none, "Umbugarla"⟩,
  ⟨"ums", none, "Pendau"⟩,
  ⟨"umu", none, "Munsee"⟩,
  ⟨"una", none, "North Watut"⟩,
  ⟨"und", none, "Undetermined"⟩,
  ⟨"une", none, "Uneme"⟩,
  ⟨"ung", none, "Ngarinyin"⟩,
  ⟨"uni", none, "Uni"⟩,
  ⟨"unk", none, "Enawené-Nawé"⟩,
  ⟨"unm", none, "Unami"⟩,
  ⟨"unn", none, "Kurnai"⟩,
  ⟨"unr", none, "Mundari"⟩,
  ⟨"unu", none, "Unubahe"⟩,
  ⟨"unx", none, "Munda"⟩,
  ⟨"unz", none, "Unde Kaili"⟩,
  ⟨"uon", none, "Kulon"⟩,
  ⟨"upi", none, "Umeda"⟩,
  ⟨"upv", none, "Uripiv-Wala-Rano-Atchin"⟩,
  ⟨"ura", none, "Urarina"⟩,
  ⟨"urb", none, "Urubú-Kaapor"⟩,
  ⟨"urc", none, "Urningangg"⟩,
  ⟨"urd", some "ur", "Urdu"⟩,
  ⟨"ure", none, "Uru"⟩,
  ⟨"urf", none, "Uradhi"⟩,
  ⟨"urg", none, "Urigina"⟩,
  ⟨"urh", none, "Urhobo"⟩,
  ⟨"uri", none, "Urim"⟩,
  ⟨"urk", none, "Urak Lawoi'"⟩,
  ⟨"url", none, "Urali"⟩,
  ⟨"urm", none, "Urapmin"⟩,
  ⟨"urn", none, "Uruangnirin"⟩,
  ⟨"uro", none, "Ura"⟩,
  ⟨"urp", none, "Uru-Pa-In"⟩,
  ⟨"urr", none, "Lehalurup"⟩,
  ⟨"urt", none, "Urat"⟩,
  ⟨"uru", none, "Urumi"⟩,
  ⟨"urv", none, "Uruava"⟩,
  ⟨"urw", none, "Sop"⟩,
  ⟨"urx", none, "Urimo"⟩,
  ⟨"ury", none, "Orya"⟩,
  ⟨"urz", none, "Uru-Eu-Wau-Wau"⟩,
  ⟨"usa", none, "Usarufa"⟩,
  ⟨"ush", none, "Ushojo"⟩,
  ⟨"usi", none, "Usui"⟩,
  ⟨"usk", none, "Usaghade"⟩,
  ⟨"usp", none, "Uspanteco"⟩,
  ⟨"uss", none, "us-Saare"⟩,
  ⟨"usu", none, "Uya"⟩,
  ⟨"uta", none, "Otank"⟩,
  ⟨"ute", none, "Ute-Southern Paiute"⟩,
  ⟨"uth", none, "ut-Hun"⟩,
  ⟨"utp", none, "Amba"⟩,
  ⟨"utr", none, "Etulo"⟩,
  ⟨"utu", none, "Utu"⟩,
  ⟨"uum", none, "Urum"⟩,
  ⟨"uur", none, "Ura"⟩,
  ⟨"uuu", none, "U"⟩,
  ⟨"uve", none, "West Uvean"⟩,
  ⟨"uvh", none, "Uri"⟩,
  ⟨"uvl", none, "Lote"⟩,
  ⟨"uwa", none, "Kuku-Uwanh"⟩,
  ⟨"uya", none, "Doko-Uyanga"⟩,
  ⟨"uzb", some "uz", "Uzbek"⟩,
  ⟨"uzn", none, "Northern Uzbek"⟩,
  ⟨"uzs", none, "Southern Uzbek"⟩]

/-- The languages whose three-letter code starts with `v`, in code order. -/
def entriesV : List Entry := [
  ⟨"vaa", none, "Vaagri Booli"⟩,
  ⟨"vae", none, "Vale"⟩,
  ⟨"vaf", none, "Vafsi"⟩,
  ⟨"vag", none, "Vagla"⟩,
  ⟨"vah", none, "Varhadi-Nagpuri"⟩,
  ⟨"vai", none, "Vai"⟩,
  ⟨"vaj", none, "Sekele"⟩,
  ⟨"val", none, "Vehes"⟩,
  ⟨"vam", none, "Vanimo"⟩,
  ⟨"van", none, "Valman"⟩,
  ⟨"vao", none, "Vao"⟩,
  ⟨"vap", none, "Vaiphei"⟩,
  ⟨"var", none, "Huarijio"⟩,
  ⟨"vas", none, "Vasavi"⟩,
  ⟨"vau", none, "Vanuma"⟩,
  ⟨"vav", none, "Varli"⟩,
  ⟨"vay", none, "Wayu"⟩,
  ⟨"vbb", none, "Southeast Babar"⟩,
  ⟨"vbk", none, "Southwestern Bontok"⟩,
  ⟨"vec", none, "Venetian"⟩,
  ⟨"ved", none, "Veddah"⟩,
  ⟨"vel", none, "Veluws"⟩,
  ⟨"vem", none, "Vemgo-Mabas"⟩,
  ⟨"ven", some "ve", "Venda"⟩,
  ⟨"veo", none, "Ventureño"⟩,
  ⟨"vep", none, "Veps"⟩,
  ⟨"ver", none, "Mom Jango"⟩,
  ⟨"vgr", none, "Vaghri"⟩,
  ⟨"vgt", none, "Vlaamse Gebarentaal"⟩,
  ⟨"vic", none, "Virgin Islands Creole English"⟩,
  ⟨"vid", none, "Vidunda"⟩,
  ⟨"vie", some "vi", "Vietnamese"⟩,
  ⟨"vif", none, "Vili"⟩,
  ⟨"vig", none, "Viemo"⟩,
  ⟨"vil", none, "Vilela"⟩,
  ⟨"vin", none, "Vinza"⟩,
  ⟨"vis", none, "Vishavan"⟩,
  ⟨"vit", none, "Viti"⟩,
  ⟨"viv", none, "Iduna"⟩,
  ⟨"vka", none, "Kariyarra"⟩,
  ⟨"vkj", none, "Kujarge"⟩,
  ⟨"vkk", none, "Kaur"⟩,
  ⟨"vkl", none, "Kulisusu"⟩,
  ⟨"vkm", none, "Kamakan"⟩,
  ⟨"vko", none, "Kodeoha"⟩,
  ⟨"vkp", none, "Korlai Creole Portuguese"⟩,
  ⟨"vkt", none, "Tenggarong Kutai Malay"⟩,
  ⟨"vku", none, "Kurrama"⟩,
  ⟨"vlp", none, "Valpei"⟩,
  ⟨"vls", none, "Vlaams"⟩,
  ⟨"vma", none, "Martuyhunira"⟩,
  ⟨"vmb", none, "Barbaram"⟩,
  ⟨"vmc", none, "Juxtlahuaca Mixtec"⟩,
  ⟨"vmd", none, "Mudu Koraga"⟩,
  ⟨"vme", none, "East Masela"⟩,
  ⟨"vmf", none, "Mainfränkisch"⟩,
  ⟨"vmg", none, "Lungalunga"⟩,
  ⟨"vmh", none, "Maraghei"⟩,
  ⟨"vmi", none, "Miwa"⟩,
  ⟨"vmj", none, "Ixtayutla Mixtec"⟩,
  ⟨"vmk", none, "Makhuwa-Shirima"⟩,
  ⟨"vml", none, "Malgana"⟩,
  ⟨"vmm", none, "Mitlatongo Mixtec"⟩,
  ⟨"vmp", none, "Soyaltepec Mazatec"⟩,
  ⟨"vmq", none, "Soyaltepec Mixtec"⟩,
  ⟨"vmr", none, "Marenje"⟩,
  ⟨"vms", none, "Moksela"⟩,
  ⟨"vmu", none, "Muluridyi"⟩,
  ⟨"vmv", none, "Valley Maidu"⟩,
  ⟨"vmw", none, "Makhuwa"⟩,
  ⟨"vmx", none, "Tamazola Mixtec"⟩,
  ⟨"vmy", none, "Ayautla Mazatec"⟩,
  ⟨"vmz", none, "Mazatlán Mazatec"⟩,
  ⟨"vnk", none, "Vano"⟩,
  ⟨"vnm", none, "Vinmavis"⟩,
  ⟨"vnp", none, "Vunapu"⟩,
  ⟨"vol", some "vo", "Volapük"⟩,
  ⟨"vor", none, "Voro"⟩,
  ⟨"vot", none, "Votic"⟩,
  ⟨"vra", none, "Vera'a"⟩,
  ⟨"vro", none, "Võro"⟩,
  ⟨"vrs", none, "Varisi"⟩,
  ⟨"vrt", none, "Burmbar"⟩,
  ⟨"vsi", none, "Moldova Sign Language"⟩,
  ⟨"vsl", none, "Venezuelan Sign Language"⟩,
  ⟨"vsv", none, "Valencian Sign Language"⟩,
  ⟨"vto", none, "Vitou"⟩,
  ⟨"vum", none, "Vumbu"⟩,
  ⟨"vun", none, "Vunjo"⟩,
  ⟨"vut", none, "Vute"⟩,
  ⟨"vwa", none, "Awa"⟩]

/-- The languages whose three-letter code starts with `w`, in code order. -/
def entriesW : List Entry := [
  ⟨"waa", none, "Walla Walla"⟩,
  ⟨"wab", none, "Wab"⟩,
  ⟨"wac", none, "Wasco-Wishram"⟩,
  ⟨"wad", none, "Wamesa"⟩,
  ⟨"wae", none, "Walser"⟩,
  ⟨"waf", none, "Wakoná"⟩,
  ⟨"wag", none, "Wa'ema"⟩,
  ⟨"wah", none, "Watubela"⟩,
  ⟨"wai", none, "Wares"⟩,
  ⟨"waj", none, "Waffa"⟩,
  ⟨"wal", none, "Wolaytta"⟩,
  ⟨"wam", none, "Wampanoag"⟩,
  ⟨"wan", none, "Wan"⟩,
  ⟨"wao", none, "Wappo"⟩,
  ⟨"wap", none, "Wapishana"⟩,
  ⟨"waq", none, "Wagiman"⟩,
  ⟨"war", none, "Waray"⟩,
  ⟨"was", none, "Washo"⟩,
  ⟨"wat", none, "Kaninuwa"⟩,
  ⟨"wau", none, "Waurá"⟩,
  ⟨"wav", none, "Waka"⟩,
  ⟨"waw", none, "Waiwai"⟩,
  ⟨"wax", none, "Watam"⟩,
  ⟨"way", none, "Wayana"⟩,
  ⟨"waz", none, "Wampur"⟩,
  ⟨"wba", none, "Warao"⟩,
  ⟨"wbb", none, "Wabo"⟩,
  ⟨"wbe", none, "Waritai"⟩,
  ⟨"wbf", none, "Wara"⟩,
  ⟨"wbh", none, "Wanda"⟩,
  ⟨"wbi", none, "Vwanji"⟩,
  ⟨"wbj", none, "Alagwa"⟩,
  ⟨"wbk", none, "Waigali"⟩,
  ⟨"wbl", none, "Wakhi"⟩,
  ⟨"wbm", none, "Wa"⟩,
  ⟨"wbp", none, "Warlpiri"⟩,
  ⟨"wbq", none, "Waddar"⟩,
  ⟨"wbr", none, "Wagdi"⟩,
  ⟨"wbs", none, "West Bengal Sign Language"⟩,
  ⟨"wbt", none, "Warnman"⟩,
  ⟨"wbv", none, "Wajarri"⟩,
  ⟨"wbw", none, "Woi"⟩,
  ⟨"wca", none, "Yanomámi"⟩,
  ⟨"wci", none, "Waci Gbe"⟩,
  ⟨"wdd", none, "Wandji"⟩,
  ⟨"wdg", none, "Wadaginam"⟩,
  ⟨"wdj", none, "Wadjiginy"⟩,
  ⟨"wdk", none, "Wadikali"⟩,
  ⟨"wdu", none, "Wadjigu"⟩,
  ⟨"wdy", none, "Wadjabangayi"⟩,
  ⟨"wea", none, "Wewaw"⟩,
  ⟨"wec", none, "Wè Western"⟩,
  ⟨"wed", none, "Wedau"⟩,
  ⟨"weg", none, "Wergaia"⟩,
  ⟨"weh", none, "Weh"⟩,
  ⟨"wei", none, "Kiunum"⟩,
  ⟨"wem", none, "Weme Gbe"⟩,
  ⟨"weo", none, "Wemale"⟩,
  ⟨"wep", none, "Westphalien"⟩,
  ⟨"wer", none, "Weri"⟩,
  ⟨"wes", none, "Cameroon Pidgin"⟩,
  ⟨"wet", none, "Perai"⟩,
  ⟨"weu", none, "Rawngtu Chin"⟩,
  ⟨"wew", none, "Wejewa"⟩,
  ⟨"wfg", none, "Yafi"⟩,
  ⟨"wga", none, "Wagaya"⟩,
  ⟨"wgb", none, "Wagawaga"⟩,
  ⟨"wgg", none, "Wangkangurru"⟩,
  ⟨"wgi", none, "Wahgi"⟩,
  ⟨"wgo", none, "Waigeo"⟩,
  ⟨"wgu", none, "Wirangu"⟩,
  ⟨"wgy", none, "Warrgamay"⟩,
  ⟨"wha", none, "Sou Upaa"⟩,
  ⟨"whg", none, "North Wahgi"⟩,
  ⟨"whk", none, "Wahau Kenyah"⟩,
  ⟨"whu", none, "Wahau Kayan"⟩,
  ⟨"wib", none, "Southern Toussian"⟩,
  ⟨"wic", none, "Wichita"⟩,
  ⟨"wie", none, "Wik-Epa"⟩,
  ⟨"wif", none, "Wik-Keyangan"⟩,
  ⟨"wig", none, "Wik Ngathan"⟩,
  ⟨"wih", none, "Wik-Me'anha"⟩,
  ⟨"wii", none, "Minidien"⟩,
  ⟨"wij", none, "Wik-Iiyanh"⟩,
  ⟨"wik", none, "Wikalkan"⟩,
  ⟨"wil", none, "Wilawila"⟩,
  ⟨"wim", none, "Wik-Mungkan"⟩,
  ⟨"win", none, "Ho-Chunk"⟩,
  ⟨"wir", none, "Wiraféd"⟩,
  ⟨"wiu", none, "Wiru"⟩,
  ⟨"wiv", none, "Vitu"⟩,
  ⟨"wiy", none, "Wiyot"⟩,
  ⟨"wja", none, "Waja"⟩,
  ⟨"wji", none, "Warji"⟩,
  ⟨"wka", none, "Kw'adza"⟩,
  ⟨"wkb", none, "Kumbaran"⟩,
  ⟨"wkd", none, "Wakde"⟩,
  ⟨"wkl", none, "Kalanadi"⟩,
  ⟨"wkr", none, "Keerray-Woorroong"⟩,
  ⟨"wku", none, "Kunduvadi"⟩,
  ⟨"wkw", none, "Wakawaka"⟩,
  ⟨"wky", none, "Wangkayutyuru"⟩,
  ⟨"wla", none, "Walio"⟩,
  ⟨"wlc", none, "Mwali Comorian"⟩,
  ⟨"wle", none, "Wolane"⟩,
  ⟨"wlg", none, "Kunbarlang"⟩,
  ⟨"wlh", none, "Welaun"⟩,
  ⟨"wli", none, "Waioli"⟩,
  ⟨"wlk", none, "Wailaki"⟩,
  ⟨"wll", none, "Wali"⟩,
  ⟨"wlm", none, "Middle Welsh"⟩,
  ⟨"wln", some "wa", "Walloon"⟩,
  ⟨"wlo", none, "Wolio"⟩,
  ⟨"wlr", none, "Wailapa"⟩,
  ⟨"wls", none, "Wallisian"⟩,
  ⟨"wlu", none, "Wuliwuli"⟩,
  ⟨"wlv", none, "Wichí Lhamtés Vejoz"⟩,
  ⟨"wlw", none, "Walak"⟩,
  ⟨"wlx", none, "Wali"⟩,
  ⟨"wly", none, "Waling"⟩,
  ⟨"wma", none, "Mawa"⟩,
  ⟨"wmb", none, "Wambaya"⟩,
  ⟨"wmc", none, "Wamas"⟩,
  ⟨"wmd", none, "Mamaindé"⟩,
  ⟨"wme", none, "Wambule"⟩,
  ⟨"wmg", none, "Western Minyag"⟩,
  ⟨"wmh", none, "Waima'a"⟩,
  ⟨"wmi", none, "Wamin"⟩,
  ⟨"wmm", none, "Maiwa"⟩,
  ⟨"wmn", none, "Waamwang"⟩,
  ⟨"wmo", none, "Wom"⟩,
  ⟨"wms", none, "Wambon"⟩,
  ⟨"wmt", none, "Walmajarri"⟩,
  ⟨"wmw", none, "Mwani"⟩,
  ⟨"wmx", none, "Womo"⟩,
  ⟨"wnb", none, "Mokati"⟩,
  ⟨"wnc", none, "Wantoat"⟩,
  ⟨"wnd", none, "Wandarang"⟩,
  ⟨"wne", none, "Waneci"⟩,
  ⟨"wng", none, "Wanggom"⟩,
  ⟨"wni", none, "Ndzwani Comorian"⟩,
  ⟨"wnk", none, "Wanukaka"⟩,
  ⟨"wnm", none, "Wanggamala"⟩,
  ⟨"wnn", none, "Wunumara"⟩,
  ⟨"wno", none, "Wano"⟩,
  ⟨"wnp", none, "Wanap"⟩,
  ⟨"wnu", none, "Usan"⟩,
  ⟨"wnw", none, "Wintu"⟩,
  ⟨"wny", none, "Wanyi"⟩,
  ⟨"woa", none, "Kuwema"⟩,
  ⟨"wob", none, "Wè Northern"⟩,
  ⟨"woc", none, "Wogeo"⟩,
  ⟨"wod", none, "Wolani"⟩,
  ⟨"woe", none, "Woleaian"⟩,
  ⟨"wof", none, "Gambian Wolof"⟩,
  ⟨"wog", none, "Wogamusin"⟩,
  ⟨"woi", none, "Kamang"⟩,
  ⟨"wok", none, "Longto"⟩,
  ⟨"wol", some "wo", "Wolof"⟩,
  ⟨"wom", none, "Wom"⟩,
  ⟨"won", none, "Wongo"⟩,
  ⟨"woo", none, "Manombai"⟩,
  ⟨"wor", none, "Woria"⟩,
  ⟨"wos", none, "Hanga Hundi"⟩,
  ⟨"wow", none, "Wawonii"⟩,
  ⟨"woy", none, "Weyto"⟩,
  ⟨"wpc", none, "Maco"⟩,
  ⟨"wra", none, "Warapu"⟩,
  ⟨"wrb", none, "Waluwarra"⟩,
  ⟨"wrg", none, "Warungu"⟩,
  ⟨"wrh", none, "Wiradjuri"⟩,
  ⟨"wri", none, "Wariyangga"⟩,
  ⟨"wrk", none, "Garrwa"⟩,
  ⟨"wrl", none, "Warlmanpa"⟩,
  ⟨"wrm", none, "Warumungu"⟩,
  ⟨"wrn", none, "Warnang"⟩,
  ⟨"wro", none, "Worrorra"⟩,
  ⟨"wrp", none, "Waropen"⟩,
  ⟨"wrr", none, "Wardaman"⟩,
  ⟨"wrs", none, "Waris"⟩,
  ⟨"wru", none, "Waru"⟩,
  ⟨"wrv", none, "Waruna"⟩,
  ⟨"wrw", none, "Gugu Warra"⟩,
  ⟨"wrx", none, "Wae Rana"⟩,
  ⟨"wry", none, "Merwari"⟩,
  ⟨"wrz", none, "Waray"⟩,
  ⟨"wsa", none, "Warembori"⟩,
  ⟨"wsg", none, "Adilabad Gondi"⟩,
  ⟨"wsi", none, "Wusi"⟩,
  ⟨"wsk", none, "Waskia"⟩,
  ⟨"wsr", none, "Owenia"⟩,
  ⟨"wss", none, "Wasa"⟩,
  ⟨"wsu", none, "Wasu"⟩,
  ⟨"wsv", none, "Wotapuri-Katarqalai"⟩,
  ⟨"wtf", none, "Watiwa"⟩,
  ⟨"wth", none, "Wathawurrung"⟩,
  ⟨"wti", none, "Berta"⟩,
  ⟨"wtk", none, "Watakataui"⟩,
  ⟨"wtm", none, "Mewati"⟩,
  ⟨"wtw", none, "Wotu"⟩,
  ⟨"wua", none, "Wikngenchera"⟩,
  ⟨"wub", none, "Wunambal"⟩,
  ⟨"wud", none, "Wudu"⟩,
  ⟨"wuh", none, "Wutunhua"⟩,
  ⟨"wul", none, "Silimo"⟩,
  ⟨"wum", none, "Wumbvu"⟩,
  ⟨"wun", none, "Bungu"⟩,
  ⟨"wur", none, "Wurrugu"⟩,
  ⟨"wut", none, "Wutung"⟩,
  ⟨"wuu", none, "Wu Chinese"⟩,
  ⟨"wuv", none, "Wuvulu-Aua"⟩,
  ⟨"wux", none, "Wulna"⟩,
  ⟨"wuy", none, "Wauyai"⟩,
  ⟨"wwa", none, "Waama"⟩,
  ⟨"wwb", none, "Wakabunga"⟩,
  ⟨"wwo", none, "Wetamut"⟩,
  ⟨"wwr", none, "Warrwa"⟩,
  ⟨"www", none, "Wawa"⟩,
  ⟨"wxa", none, "Waxianghua"⟩,
  ⟨"wxw", none, "Wardandi"⟩,
  ⟨"wyb", none, "Wangaaybuwan-Ngiyambaa"⟩,
  ⟨"wyi", none, "Woiwurrung"⟩,
  ⟨"wym", none, "Wymysorys"⟩,
  ⟨"wyr", none, "Wayoró"⟩,
  ⟨"wyy", none, "Western Fijian"⟩]

/-- The languages whose three-letter code starts with `x`, in code order. -/
def entriesX : List Entry := [
  ⟨"xaa", none, "Andalusian Arabic"⟩,
  ⟨"xab", none, "Sambe"⟩,
  ⟨"xac", none, "Kachari"⟩,
  ⟨"xad", none, "Adai"⟩,
  ⟨"xae", none, "Aequian"⟩,
  ⟨"xag", none, "Aghwan"⟩,
  ⟨"xai", none, "Kaimbé"⟩,
  ⟨"xaj", none, "Ararandewára"⟩,
  ⟨"xak", none, "Máku"⟩,
  ⟨"xal", none, "Kalmyk"⟩,
  ⟨"xam", none, "ǀXam"⟩,
  ⟨"xan", none, "Xamtanga"⟩,
  ⟨"xao", none, "Khao"⟩,
  ⟨"xap", none, "Apalachee"⟩,
  ⟨"xaq", none, "Aquitanian"⟩,
  ⟨"xar", none, "Karami"⟩,
  ⟨"xas", none, "Kamas"⟩,
  ⟨"xat", none, "Katawixi"⟩,
  ⟨"xau", none, "Kauwera"⟩,
  ⟨"xav", none, "Xavánte"⟩,
  ⟨"xaw", none, "Kawaiisu"⟩,
  ⟨"xay", none, "Kayan Mahakam"⟩,
  ⟨"xbb", none, "Lower Burdekin"⟩,
  ⟨"xbc", none, "Bactrian"⟩,
  ⟨"xbd", none, "Bindal"⟩,
  ⟨"xbe", none, "Bigambal"⟩,
  ⟨"xbg", none, "Bunganditj"⟩,
  ⟨"xbi", none, "Kombio"⟩,
  ⟨"xbj", none, "Birrpayi"⟩,
  ⟨"xbm", none, "Middle Breton"⟩,
  ⟨"xbn", none, "Kenaboi"⟩,
  ⟨"xbo", none, "Bolgarian"⟩,
  ⟨"xbp", none, "Bibbulman"⟩,
  ⟨"xbr", none, "Kambera"⟩,
  ⟨"xbw", none, "Kambiwá"⟩,
  ⟨"xby", none, "Batjala"⟩,
  ⟨"xcb", none, "Cumbric"⟩,
  ⟨"xcc", none, "Camunic"⟩,
  ⟨"xce", none, "Celtiberian"⟩,
  ⟨"xcg", none, "Cisalpine Gaulish"⟩,
  ⟨"xch", none, "Chemakum"⟩,
  ⟨"xcl", none, "Classical Armenian"⟩,
  ⟨"xcm", none, "Comecrudo"⟩,
  ⟨"xcn", none, "Cotoname"⟩,
  ⟨"xco", none, "Chorasmian"⟩,
  ⟨"xcr", none, "Carian"⟩,
  ⟨"xct", none, "Classical Tibetan"⟩,
  ⟨"xcu", none, "Curonian"⟩,
  ⟨"xcv", none, "Chuvantsy"⟩,
  ⟨"xcw", none, "Coahuilteco"⟩,
  ⟨"xcy", none, "Cayuse"⟩,
  ⟨"xda", none, "Darkinyung"⟩,
  ⟨"xdc", none, "Dacian"⟩,
  ⟨"xdk", none, "Dharuk"⟩,
  ⟨"xdm", none, "Edomite"⟩,
  ⟨"xdo", none, "Kwandu"⟩,
  ⟨"xdy", none, "Malayic Dayak"⟩,
  ⟨"xeb", none, "Eblan"⟩,
  ⟨"xed", none, "Hdi"⟩,
  ⟨"xeg", none, "ǁXegwi"⟩,
  ⟨"xel", none, "Kelo"⟩,
  ⟨"xem", none, "Kembayan"⟩,
  ⟨"xep", none, "Epi-Olmec"⟩,
  ⟨"xer", none, "Xerénte"⟩,
  ⟨"xes", none, "Kesawai"⟩,
  ⟨"xet", none, "Xetá"⟩,
  ⟨"xeu", none, "Keoru-Ahia"⟩,
  ⟨"xfa", none, "Faliscan"⟩,
  ⟨"xga", none, "Galatian"⟩,
  ⟨"xgb", none, "Gbin"⟩,
  ⟨"xgd", none, "Gudang"⟩,
  ⟨"xgf", none, "Gabrielino-Fernandeño"⟩,
  ⟨"xgg", none, "Goreng"⟩,
  ⟨"xgi", none, "Garingbal"⟩,
  ⟨"xgl", none, "Galindan"⟩,
  ⟨"xgm", none, "Dharumbal"⟩,
  ⟨"xgr", none, "Garza"⟩,
  ⟨"xgu", none, "Unggumi"⟩,
  ⟨"xgw", none, "Guwa"⟩,
  ⟨"xha", none, "Harami"⟩,
  ⟨"xhc", none, "Hunnic"⟩,
  ⟨"xhd", none, "Hadrami"⟩,
  ⟨"xhe", none, "Khetrani"⟩,
  ⟨"xho", some "xh", "Xhosa"⟩,
  ⟨"xhr", none, "Hernican"⟩,
  ⟨"xht", none, "Hattic"⟩,
  ⟨"xhu", none, "Hurrian"⟩,
  ⟨"xhv", none, "Khua"⟩,
  ⟨"xib", none, "Iberian"⟩,
  ⟨"xii", none, "Xiri"⟩,
  ⟨"xil", none, "Illyrian"⟩,
  ⟨"xin", none, "Xinca"⟩,
  ⟨"xir", none, "Xiriâna"⟩,
  ⟨"xis", none, "Kisan"⟩,
  ⟨"xiv", none, "Indus Valley Language"⟩,
  ⟨"xiy", none, "Xipaya"⟩,
  ⟨"xjb", none, "Minjungbal"⟩,
  ⟨"xjt", none, "Jaitmatang"⟩,
  ⟨"xka", none, "Kalkoti"⟩,
  ⟨"xkb", none, "Northern Nago"⟩,
  ⟨"xkc", none, "Kho'ini"⟩,
  ⟨"xkd", none, "Mendalam Kayan"⟩,
  ⟨"xke", none, "Kereho"⟩,
  ⟨"xkf", none, "Khengkha"⟩,
  ⟨"xkg", none, "Kagoro"⟩,
  ⟨"xkh", none, "Karahawyana"⟩,
  ⟨"xki", none, "Kenyan Sign Language"⟩,
  ⟨"xkj", none, "Kajali"⟩,
  ⟨"xkk", none, "Kachok"⟩,
  ⟨"xkl", none, "Mainstream Kenyah"⟩,
  ⟨"xkn", none, "Kayan River Kayan"⟩,
  ⟨"xko", none, "Kiorr"⟩,
  ⟨"xkp", none, "Kabatei"⟩,
  ⟨"xkq", none, "Koroni"⟩,
  ⟨"xkr", none, "Xakriabá"⟩,
  ⟨"xks", none, "Kumbewaha"⟩,
  ⟨"xkt", none, "Kantosi"⟩,
  ⟨"xku", none, "Kaamba"⟩,
  ⟨"xkv", none, "Kgalagadi"⟩,
  ⟨"xkw", none, "Kembra"⟩,
  ⟨"xkx", none, "Karore"⟩,
  ⟨"xky", none, "Uma' Lasan"⟩,
  ⟨"xkz", none, "Kurtokha"⟩,
  ⟨"xla", none, "Kamula"⟩,
  ⟨"xlb", none, "Loup B"⟩,
  ⟨"xlc", none, "Lycian"⟩,
  ⟨"xld", none, "Lydian"⟩,
  ⟨"xle", none, "Lemnian"⟩,
  ⟨"xlg", none, "Ligurian"⟩,
  ⟨"xli", none, "Liburnian"⟩,
  ⟨"xln", none, "Alanic"⟩,
  ⟨"xlo", none, "Loup A"⟩,
  ⟨"xlp", none, "Lepontic"⟩,
  ⟨"xls", none, "Lusitanian"⟩,
  ⟨"xlu", none, "Cuneiform Luwian"⟩,
  ⟨"xly", none, "Elymian"⟩,
  ⟨"xma", none, "Mushungulu"⟩,
  ⟨"xmb", none, "Mbonga"⟩,
  ⟨"xmc", none, "Makhuwa-Marrevone"⟩,
  ⟨"xmd", none, "Mbudum"⟩,
  ⟨"xme", none, "Median"⟩,
  ⟨"xmf", none, "Mingrelian"⟩,
  ⟨"xmg", none, "Mengaka"⟩,
  ⟨"xmh", none, "Kugu-Muminh"⟩,
  ⟨"xmj", none, "Majera"⟩,
  ⟨"xmk", none, "Ancient Macedonian"⟩,
  ⟨"xml", none, "Malaysian Sign Language"⟩,
  ⟨"xmm", none, "Manado Malay"⟩,
  ⟨"xmn", none, "Manichaean Middle Persian"⟩,
  ⟨"xmo", none, "Morerebi"⟩,
  ⟨"xmp", none, "Kuku-Mu'inh"⟩,
  ⟨"xmq", none, "Kuku-Mangk"⟩,
  ⟨"xmr", none, "Meroitic"⟩,
  ⟨"xms", none, "Moroccan Sign Language"⟩,
  ⟨"xmt", none, "Matbat"⟩,
  ⟨"xmu", none, "Kamu"⟩,
  ⟨"xmv", none, "Antankarana Malagasy"⟩,
  ⟨"xmw", none, "Tsimihety Malagasy"⟩,
  ⟨"xmx", none, "Salawati"⟩,
  ⟨"xmy", none, "Mayaguduna"⟩,
  ⟨"xmz", none, "Mori Bawah"⟩,
  ⟨"xna", none, "Ancient North Arabian"⟩,
  ⟨"xnb", none, "Kanakanabu"⟩,
  ⟨"xng", none, "Middle Mongolian"⟩,
  ⟨"xnh", none, "Kuanhua"⟩,
  ⟨"xni", none, "Ngarigu"⟩,
  ⟨"xnk", none, "Nganakarti"⟩,
  ⟨"xnm", none, "Ngumbarl"⟩,
  ⟨"xnn", none, "Northern Kankanay"⟩,
  ⟨"xno", none, "Anglo-Norman"⟩,
  ⟨"xnr", none, "Kangri"⟩,
  ⟨"xns", none, "Kanashi"⟩,
  ⟨"xnt", none, "Narragansett"⟩,
  ⟨"xnu", none, "Nukunul"⟩,
  ⟨"xny", none, "Nyiyaparli"⟩,
  ⟨"xnz", none, "Kenzi"⟩,
  ⟨"xoc", none, "O'chi'chi'"⟩,
  ⟨"xod", none, "Kokoda"⟩,
  ⟨"xog", none, "Soga"⟩,
  ⟨"xoi", none, "Kominimung"⟩,
  ⟨"xok", none, "Xokleng"⟩,
  ⟨"xom", none, "Komo"⟩,
  ⟨"xon", none, "Konkomba"⟩,
  ⟨"xoo", none, "Xukurú"⟩,
  ⟨"xop", none, "Kopar"⟩,
  ⟨"xor", none, "Korubo"⟩,
  ⟨"xow", none, "Kowaki"⟩,
  ⟨"xpa", none, "Pirriya"⟩,
  ⟨"xpc", none, "Pecheneg"⟩,
  ⟨"xpe", none, "Liberia Kpelle"⟩,
  ⟨"xpg", none, "Phrygian"⟩,
  ⟨"xpi", none, "Pictish"⟩,
  ⟨"xpj", none, "Mpalitjanh"⟩,
  ⟨"xpk", none, "Kulina Pano"⟩,
  ⟨"xpm", none, "Pumpokol"⟩,
  ⟨"xpn", none, "Kapinawá"⟩,
  ⟨"xpo", none, "Pochutec"⟩,
  ⟨"xpp", none, "Puyo-Paekche"⟩,
  ⟨"xpq", none, "Mohegan-Pequot"⟩,
  ⟨"xpr", none, "Parthian"⟩,
  ⟨"xps", none, "Pisidian"⟩,
  ⟨"xpt", none, "Punthamara"⟩,
  ⟨"xpu", none, "Punic"⟩,
  ⟨"xpy", none, "Puyo"⟩,
  ⟨"xqa", none, "Karakhanid"⟩,
  ⟨"xqt", none, "Qatabanian"⟩,
  ⟨"xra", none, "Krahô"⟩,
  ⟨"xrb", none, "Eastern Karaboro"⟩,
  ⟨"xrd", none, "Gundungurra"⟩,
  ⟨"xre", none, "Kreye"⟩,
  ⟨"xrg", none, "Minang"⟩,
  ⟨"xri", none, "Krikati-Timbira"⟩,
  ⟨"xrm", none, "Armazic"⟩,
  ⟨"xrn", none, "Arin"⟩,
  ⟨"xrr", none, "Raetic"⟩,
  ⟨"xrt", none, "Aranama-Tamique"⟩,
  ⟨"xru", none, "Marriammu"⟩,
  ⟨"xrw", none, "Karawa"⟩,
  ⟨"xsa", none, "Sabaean"⟩,
  ⟨"xsb", none, "Sambal"⟩,
  ⟨"xsc", none, "Scythian"⟩,
  ⟨"xsd", none, "Sidetic"⟩,
  ⟨"xse", none, "Sempan"⟩,
  ⟨"xsh", none, "Shamang"⟩,
  ⟨"xsi", none, "Sio"⟩,
  ⟨"xsj", none, "Subi"⟩,
  ⟨"xsl", none, "South Slavey"⟩,
  ⟨"xsm", none, "Kasem"⟩,
  ⟨"xsn", none, "Sanga"⟩,
  ⟨"xso", none, "Solano"⟩,
  ⟨"xsp", none, "Silopi"⟩,
  ⟨"xsq", none, "Makhuwa-Saka"⟩,
  ⟨"xsr", none, "Sherpa"⟩,
  ⟨"xss", none, "Assan"⟩,
  ⟨"xsu", none, "Sanumá"⟩,
  ⟨"xsv", none, "Sudovian"⟩,
  ⟨"xsy", none, "Saisiyat"⟩,
  ⟨"xta", none, "Alcozauca Mixtec"⟩,
  ⟨"xtb", none, "Chazumba Mixtec"⟩,
  ⟨"xtc", none, "Katcha-Kadugli-Miri"⟩,
  ⟨"xtd", none, "Diuxi-Tilantongo Mixtec"⟩,
  ⟨"xte", none, "Ketengban"⟩,
  ⟨"xtg", none, "Transalpine Gaulish"⟩,
  ⟨"xth", none, "Yitha Yitha"⟩,
  ⟨"xti", none, "Sinicahua Mixtec"⟩,
  ⟨"xtj", none, "San Juan Teita Mixtec"⟩,
  ⟨"xtl", none, "Tijaltepec Mixtec"⟩,
  ⟨"xtm", none, "Magdalena Peñasco Mixtec"⟩,
  ⟨"xtn", none, "Northern Tlaxiaco Mixtec"⟩,
  ⟨"xto", none, "Tokharian A"⟩,
  ⟨"xtp", none, "San Miguel Piedras Mixtec"⟩,
  ⟨"xtq", none, "Tumshuqese"⟩,
  ⟨"xtr", none, "Early Tripuri"⟩,
  ⟨"xts", none, "Sindihui Mixtec"⟩,
  ⟨"xtt", none, "Tacahua Mixtec"⟩,
  ⟨"xtu", none, "Cuyamecalco Mixtec"⟩,
  ⟨"xtv", none, "Thawa"⟩,
  ⟨"xtw", none, "Tawandê"⟩,
  ⟨"xty", none, "Yoloxochitl Mixtec"⟩,
  ⟨"xua", none, "Alu Kurumba"⟩,
  ⟨"xub", none, "Betta Kurumba"⟩,
  ⟨"xud", none, "Umiida"⟩,
  ⟨"xug", none, "Kunigami"⟩,
  ⟨"xuj", none, "Jennu Kurumba"⟩,
  ⟨"xul", none, "Ngunawal"⟩,
  ⟨"xum", none, "Umbrian"⟩,
  ⟨"xun", none, "Unggaranggu"⟩,
  ⟨"xuo", none, "Kuo"⟩,
  ⟨"xup", none, "Upper Umpqua"⟩,
  ⟨"xur", none, "Urartian"⟩,
  ⟨"xut", none, "Kuthant"⟩,
  ⟨"xuu", none, "Kxoe"⟩,
  ⟨"xve", none, "Venetic"⟩,
  ⟨"xvi", none, "Kamviri"⟩,
  ⟨"xvn", none, "Vandalic"⟩,
  ⟨"xvo", none, "Volscian"⟩,
  ⟨"xvs", none, "Vestinian"⟩,
  ⟨"xwa", none, "Kwaza"⟩,
  ⟨"xwc", none, "Woccon"⟩,
  ⟨"xwd", none, "Wadi Wadi"⟩,
  ⟨"xwe", none, "Xwela Gbe"⟩,
  ⟨"xwg", none, "Kwegu"⟩,
  ⟨"xwj", none, "Wajuk"⟩,
  ⟨"xwk", none, "Wangkumara"⟩,
  ⟨"xwl", none, "Western Xwla Gbe"⟩,
  ⟨"xwo", none, "Written Oirat"⟩,
  ⟨"xwr", none, "Kwerba Mamberamo"⟩,
  ⟨"xwt", none, "Wotjobaluk"⟩,
  ⟨"xww", none, "Wemba Wemba"⟩,
  ⟨"xxb", none, "Boro"⟩,
  ⟨"xxk", none, "Ke'o"⟩,
  ⟨"xxm", none, "Minkin"⟩,
  ⟨"xxr", none, "Koropó"⟩,
  ⟨"xxt", none, "Tambora"⟩,
  ⟨"xya", none, "Yaygir"⟩,
  ⟨"xyb", none, "Yandjibara"⟩,
  ⟨"xyj", none, "Mayi-Yapi"⟩,
  ⟨"xyk", none, "Mayi-Kulan"⟩,
  ⟨"xyl", none, "Yalakalore"⟩,
  ⟨"xyt", none, "Mayi-Thakurti"⟩,
  ⟨"xyy", none, "Yorta Yorta"⟩,
  ⟨"xzh", none, "Zhang-Zhung"⟩,
  ⟨"xzm", none, "Zemgalian"⟩,
  ⟨"xzp", none, "Ancient Zapotec"⟩]

/-- The languages whose three-letter code starts with `y`, in code order. -/
def entriesY : List Entry := [
  ⟨"yaa", none, "Yaminahua"⟩,
  ⟨"yab", none, "Yuhup"⟩,
  ⟨"yac", none, "Pass Valley Yali"⟩,
  ⟨"yad", none, "Yagua"⟩,
  ⟨"yae", none, "Pumé"⟩,
  ⟨"yaf", none, "Yaka"⟩,
  ⟨"yag", none, "Yámana"⟩,
  ⟨"yah", none, "Yazgulyam"⟩,
  ⟨"yai", none, "Yagnobi"⟩,
  ⟨"yaj", none, "Banda-Yangere"⟩,
  ⟨"yak", none, "Yakama"⟩,
  ⟨"yal", none, "Yalunka"⟩,
  ⟨"yam", none, "Yamba"⟩,
  ⟨"yan", none, "Mayangna"⟩,
  ⟨"yao", none, "Yao"⟩,
  ⟨"yap", none, "Yapese"⟩,
  ⟨"yaq", none, "Yaqui"⟩,
  ⟨"yar", none, "Yabarana"⟩,
  ⟨"yas", none, "Nugunu"⟩,
  ⟨"yat", none, "Yambeta"⟩,
  ⟨"yau", none, "Yuwana"⟩,
  ⟨"yav", none, "Yangben"⟩,
  ⟨"yaw", none, "Yawalapití"⟩,
  ⟨"yax", none, "Yauma"⟩,
  ⟨"yay", none, "Agwagwune"⟩,
  ⟨"yaz", none, "Lokaa"⟩,
  ⟨"yba", none, "Yala"⟩,
  ⟨"ybb", none, "Yemba"⟩,
  ⟨"ybe", none, "West Yugur"⟩,
  ⟨"ybh", none, "Yakha"⟩,
  ⟨"ybi", none, "Yamphu"⟩,
  ⟨"ybj", none, "Hasha"⟩,
  ⟨"ybk", none, "Bokha"⟩,
  ⟨"ybl", none, "Yukuben"⟩,
  ⟨"ybm", none, "Yaben"⟩,
  ⟨"ybn", none, "Yabaâna"⟩,
  ⟨"ybo", none, "Yabong"⟩,
  ⟨"ybx", none, "Yawiyo"⟩,
  ⟨"yby", none, "Yaweyuha"⟩,
  ⟨"ych", none, "Chesu"⟩,
  ⟨"ycl", none, "Lolopo"⟩,
  ⟨"ycn", none, "Yucuna"⟩,
  ⟨"ycp", none, "Chepya"⟩,
  ⟨"yda", none, "Yanda"⟩,
  ⟨"ydd", none, "Eastern Yiddish"⟩,
  ⟨"yde", none, "Yangum Dey"⟩,
  ⟨"ydg", none, "Yidgha"⟩,
  ⟨"ydk", none, "Yoidik"⟩,
  ⟨"yea", none, "Ravula"⟩,
  ⟨"yec", none, "Yeniche"⟩,
  ⟨"yee", none, "Yimas"⟩,
  ⟨"yei", none, "Yeni"⟩,
  ⟨"yej", none, "Yevanic"⟩,
  ⟨"yel", none, "Yela"⟩,
  ⟨"yer", none, "Tarok"⟩,
  ⟨"yes", none, "Nyankpa"⟩,
  ⟨"yet", none, "Yetfa"⟩,
  ⟨"yeu", none, "Yerukula"⟩,
  ⟨"yev", none, "Yapunda"⟩,
  ⟨"yey", none, "Yeyi"⟩,
  ⟨"yga", none, "Malyangapa"⟩,
  ⟨"ygi", none, "Yiningayi"⟩,
  ⟨"ygl", none, "Yangum Gel"⟩,
  ⟨"ygm", none, "Yagomi"⟩,
  ⟨"ygp", none, "Gepo"⟩,
  ⟨"ygr", none, "Yagaria"⟩,
  ⟨"ygs", none, "Yolŋu Sign Language"⟩,
  ⟨"ygu", none, "Yugul"⟩,
  ⟨"ygw", none, "Yagwoia"⟩,
  ⟨"yha", none, "Baha Buyang"⟩,
  ⟨"yhd", none, "Judeo-Iraqi Arabic"⟩,
  ⟨"yhl", none, "Hlepho Phowa"⟩,
  ⟨"yhs", none, "Yan-nhaŋu Sign Language"⟩,
  ⟨"yia", none, "Yinggarda"⟩,
  ⟨"yid", some "yi", "Yiddish"⟩,
  ⟨"yif", none, "Ache"⟩,
  ⟨"yig", none, "Wusa Nasu"⟩,
  ⟨"yih", none, "Western Yiddish"⟩,
  ⟨"yii", none, "Yidiny"⟩,
  ⟨"yij", none, "Yindjibarndi"⟩,
  ⟨"yik", none, "Dongshanba Lalo"⟩,
  ⟨"yil", none, "Yindjilandji"⟩,
  ⟨"yim", none, "Yimchungru Naga"⟩,
  ⟨"yin", none, "Riang Lai"⟩,
  ⟨"yip", none, "Pholo"⟩,
  ⟨"yiq", none, "Miqie"⟩,
  ⟨"yir", none, "North Awyu"⟩,
  ⟨"yis", none, "Yis"⟩,
  ⟨"yit", none, "Eastern Lalu"⟩,
  ⟨"yiu", none, "Awu"⟩,
  ⟨"yiv", none, "Northern Nisu"⟩,
  ⟨"yix", none, "Axi Yi"⟩,
  ⟨"yiz", none, "Azhe"⟩,
  ⟨"yka", none, "Yakan"⟩,
  ⟨"ykg", none, "Northern Yukaghir"⟩,
  ⟨"yki", none, "Yoke"⟩,
  ⟨"ykk", none, "Yakaikeke"⟩,
  ⟨"ykl", none, "Khlula"⟩,
  ⟨"ykm", none, "Kap"⟩,
  ⟨"ykn", none, "Kua-nsi"⟩,
  ⟨"yko", none, "Yasa"⟩,
  ⟨"ykr", none, "Yekora"⟩,
  ⟨"ykt", none, "Kathu"⟩,
  ⟨"yku", none, "Kuamasi"⟩,
  ⟨"yky", none, "Yakoma"⟩,
  ⟨"yla", none, "Yaul"⟩,
  ⟨"ylb", none, "Yaleba"⟩,
  ⟨"yle", none, "Yele"⟩,
  ⟨"ylg", none, "Yelogu"⟩,
  ⟨"yli", none, "Angguruk Yali"⟩,
  ⟨"yll", none, "Yil"⟩,
  ⟨"ylm", none, "Limi"⟩,
  ⟨"yln", none, "Langnian Buyang"⟩,
  ⟨"ylo", none, "Naluo Yi"⟩,
  ⟨"ylr", none, "Yalarnnga"⟩,
  ⟨"ylu", none, "Aribwaung"⟩,
  ⟨"yly", none, "Nyâlayu"⟩,
  ⟨"ymb", none, "Yambes"⟩,
  ⟨"ymc", none, "Southern Muji"⟩,
  ⟨"ymd", none, "Muda"⟩,
  ⟨"yme", none, "Yameo"⟩,
  ⟨"ymg", none, "Yamongeri"⟩,
  ⟨"ymh", none, "Mili"⟩,
  ⟨"ymi", none, "Moji"⟩,
  ⟨"ymk", none, "Makwe"⟩,
  ⟨"yml", none, "Iamalele"⟩,
  ⟨"ymm", none, "Maay"⟩,
  ⟨"ymn", none, "Yamna"⟩,
  ⟨"ymo", none, "Yangum Mon"⟩,
  ⟨"ymp", none, "Yamap"⟩,
  ⟨"ymq", none, "Qila Muji"⟩,
  ⟨"ymr", none, "Malasar"⟩,
  ⟨"yms", none, "Mysian"⟩,
  ⟨"ymx", none, "Northern Muji"⟩,
  ⟨"ymz", none, "Muzi"⟩,
  ⟨"yna", none, "Aluo"⟩,
  ⟨"ynd", none, "Yandruwandha"⟩,
  ⟨"yne", none, "Lang'e"⟩,
  ⟨"yng", none, "Yango"⟩,
  ⟨"ynk", none, "Naukan Yupik"⟩,
  ⟨"ynl", none, "Yangulam"⟩,
  ⟨"ynn", none, "Yana"⟩,
  ⟨"yno", none, "Yong"⟩,
  ⟨"ynq", none, "Yendang"⟩,
  ⟨"yns", none, "Yansi"⟩,
  ⟨"ynu", none, "Yahuna"⟩,
  ⟨"yob", none, "Yoba"⟩,
  ⟨"yog", none, "Yogad"⟩,
  ⟨"yoi", none, "Yonaguni"⟩,
  ⟨"yok", none, "Yokuts"⟩,
  ⟨"yol", none, "Yola"⟩,
  ⟨"yom", none, "Yombe"⟩,
  ⟨"yon", none, "Yongkom"⟩,
  ⟨"yor", some "yo", "Yoruba"⟩,
  ⟨"yot", none, "Yotti"⟩,
  ⟨"yox", none, "Yoron"⟩,
  ⟨"yoy", none, "Yoy"⟩,
  ⟨"ypa", none, "Phala"⟩,
  ⟨"ypb", none, "Labo Phowa"⟩,
  ⟨"ypg", none, "Phola"⟩,
  ⟨"yph", none, "Phupha"⟩,
  ⟨"ypm", none, "Phuma"⟩,
  ⟨"ypn", none, "Ani Phowa"⟩,
  ⟨"ypo", none, "Alo Phola"⟩,
  ⟨"ypp", none, "Phupa"⟩,
  ⟨"ypz", none, "Phuza"⟩,
  ⟨"yra", none, "Yerakai"⟩,
  ⟨"yrb", none, "Yareba"⟩,
  ⟨"yre", none, "Yaouré"⟩,
  ⟨"yrk", none, "Nenets"⟩,
  ⟨"yrl", none, "Nhengatu"⟩,
  ⟨"yrm", none, "Yirrk-Mel"⟩,
  ⟨"yrn", none, "Yerong"⟩,
  ⟨"yro", none, "Yaroamë"⟩,
  ⟨"yrs", none, "Yarsun"⟩,
  ⟨"yrw", none, "Yarawata"⟩,
  ⟨"yry", none, "Yarluyandi"⟩,
  ⟨"ysc", none, "Yassic"⟩,
  ⟨"ysd", none, "Samatao"⟩,
  ⟨"ysg", none, "Sonaga"⟩,
  ⟨"ysl", none, "Yugoslavian Sign Language"⟩,
  ⟨"ysn", none, "Sani"⟩,
  ⟨"yso", none, "Nisi"⟩,
  ⟨"ysp", none, "Southern Lolopo"⟩,
  ⟨"ysr", none, "Sirenik Yupik"⟩,
  ⟨"yss", none, "Yessan-Mayo"⟩,
  ⟨"ysy", none, "Sanie"⟩,
  ⟨"yta", none, "Talu"⟩,
  ⟨"ytl", none, "Tanglang"⟩,
  ⟨"ytp", none, "Thopho"⟩,
  ⟨"ytw", none, "Yout Wam"⟩,
  ⟨"yty", none, "Yatay"⟩,
  ⟨"yua", none, "Yucateco"⟩,
  ⟨"yub", none, "Yugambal"⟩,
  ⟨"yuc", none, "Yuchi"⟩,
  ⟨"yud", none, "Judeo-Tripolitanian Arabic"⟩,
  ⟨"yue", none, "Yue Chinese"⟩,
  ⟨"yuf", none, "Havasupai-Walapai-Yavapai"⟩,
  ⟨"yug", none, "Yug"⟩,
  ⟨"yui", none, "Yurutí"⟩,
  ⟨"yuj", none, "Karkar-Yuri"⟩,
  ⟨"yuk", none, "Yuki"⟩,
  ⟨"yul", none, "Yulu"⟩,
  ⟨"yum", none, "Quechan"⟩,
  ⟨"yun", none, "Bena"⟩,
  ⟨"yup", none, "Yukpa"⟩,
  ⟨"yuq", none, "Yuqui"⟩,
  ⟨"yur", none, "Yurok"⟩,
  ⟨"yut", none, "Yopno"⟩,
  ⟨"yuw", none, "Yau"⟩,
  ⟨"yux", none, "Southern Yukaghir"⟩,
  ⟨"yuy", none, "East Yugur"⟩,
  ⟨"yuz", none, "Yuracare"⟩,
  ⟨"yva", none, "Yawa"⟩,
  ⟨"yvt", none, "Yavitero"⟩,
  ⟨"ywa", none, "Kalou"⟩,
  ⟨"ywg", none, "Yinhawangka"⟩,
  ⟨"ywl", none, "Western Lalu"⟩,
  ⟨"ywn", none, "Yawanawa"⟩,
  ⟨"ywq", none, "Wuding-Luquan Yi"⟩,
  ⟨"ywr", none, "Yawuru"⟩,
  ⟨"ywt", none, "Xishanba Lalo"⟩,
  ⟨"ywu", none, "Wumeng Nasu"⟩,
  ⟨"yww", none, "Yawarawarga"⟩,
  ⟨"yxa", none, "Mayawali"⟩,
  ⟨"yxg", none, "Yagara"⟩,
  ⟨"yxl", none, "Yardliyawarra"⟩,
  ⟨"yxm", none, "Yinwum"⟩,
  ⟨"yxu", none, "Yuyu"⟩,
  ⟨"yxy", none, "Yabula Yabula"⟩,
  ⟨"yyr", none, "Yir Yoront"⟩,
  ⟨"yyu", none, "Yau"⟩,
  ⟨"yyz", none, "Ayizi"⟩,
  ⟨"yzg", none, "E'ma Buyang"⟩,
  ⟨"yzk", none, "Zokhuo"⟩]

/-- The languages whose three-letter code starts with `z`, in code order. -/
def entriesZ : List Entry := [
  ⟨"zaa", none, "Sierra de Juárez Zapotec"⟩,
  ⟨"zab", none, "Western Tlacolula Valley Zapotec"⟩,
  ⟨"zac", none, "Ocotlán Zapotec"⟩,
  ⟨"zad", none, "Cajonos Zapotec"⟩,
  ⟨"zae", none, "Yareni Zapotec"⟩,
  ⟨"zaf", none, "Ayoquesco Zapotec"⟩,
  ⟨"zag", none, "Zaghawa"⟩,
  ⟨"zah", none, "Zangwal"⟩,
  ⟨"zai", none, "Isthmus Zapotec"⟩,
  ⟨"zaj", none, "Zaramo"⟩,
  ⟨"zak", none, "Zanaki"⟩,
  ⟨"zal", none, "Zauzou"⟩,
  ⟨"zam", none, "Miahuatlán Zapotec"⟩,
  ⟨"zao", none, "Ozolotepec Zapotec"⟩,
  ⟨"zap", none, "Zapotec"⟩,
  ⟨"zaq", none, "Aloápam Zapotec"⟩,
  ⟨"zar", none, "Rincón Zapotec"⟩,
  ⟨"zas", none, "Santo Domingo Albarradas Zapotec"⟩,
  ⟨"zat", none, "Tabaa Zapotec"⟩,
  ⟨"zau", none, "Zangskari"⟩,
  ⟨"zav", none, "Yatzachi Zapotec"⟩,
  ⟨"zaw", none, "Mitla Zapotec"⟩,
  ⟨"zax", none, "Xadani Zapotec"⟩,
  ⟨"zay", none, "Zayse-Zergulla"⟩,
  ⟨"zaz", none, "Zari"⟩,
  ⟨"zba", none, "Balaibalan"⟩,
  ⟨"zbc", none, "Central Berawan"⟩,
  ⟨"zbe", none, "East Berawan"⟩,
  ⟨"zbl", none, "Blissymbols"⟩,
  ⟨"zbt", none, "Batui"⟩,
  ⟨"zbu", none, "Bu"⟩,
  ⟨"zbw", none, "West Berawan"⟩,
  ⟨"zca", none, "Coatecas Altas Zapotec"⟩,
  ⟨"zch", none, "Central Hongshuihe Zhuang"⟩,
  ⟨"zdj", none, "Ngazidja Comorian"⟩,
  ⟨"zea", none, "Zeeuws"⟩,
  ⟨"zeg", none, "Zenag"⟩,
  ⟨"zeh", none, "Eastern Hongshuihe Zhuang"⟩,
  ⟨"zen", none, "Zenaga"⟩,
  ⟨"zga", none, "Kinga"⟩,
  ⟨"zgb", none, "Guibei Zhuang"⟩,
  ⟨"zgh", none, "Standard Moroccan Tamazight"⟩,
  ⟨"zgm", none, "Minz Zhuang"⟩,
  ⟨"zgn", none, "Guibian Zhuang"⟩,
  ⟨"zgr", none, "Magori"⟩,
  ⟨"zha", some "za", "Zhuang"⟩,
  ⟨"zhb", none, "Zhaba"⟩,
  ⟨"zhd", none, "Dai Zhuang"⟩,
  ⟨"zhi", none, "Zhire"⟩,
  ⟨"zhn", none, "Nong Zhuang"⟩,
  ⟨"zho", some "zh", "Chinese"⟩,
  ⟨"zhw", none, "Zhoa"⟩,
  ⟨"zia", none, "Zia"⟩,
  ⟨"zib", none, "Zimbabwe Sign Language"⟩,
  ⟨"zik", none, "Zimakani"⟩,
  ⟨"zil", none, "Zialo"⟩,
  ⟨"zim", none, "Mesme"⟩,
  ⟨"zin", none, "Zinza"⟩,
  ⟨"ziw", none, "Zigula"⟩,
  ⟨"ziz", none, "Zizilivakan"⟩,
  ⟨"zka", none, "Kaimbulawa"⟩,
  ⟨"zkd", none, "Kadu"⟩,
  ⟨"zkg", none, "Koguryo"⟩,
  ⟨"zkh", none, "Khorezmian"⟩,
  ⟨"zkk", none, "Karankawa"⟩,
  ⟨"zkn", none, "Kanan"⟩,
  ⟨"zko", none, "Kott"⟩,
  ⟨"zkp", none, "São Paulo Kaingáng"⟩,
  ⟨"zkr", none, "Zakhring"⟩,
  ⟨"zkt", none, "Kitan"⟩,
  ⟨"zku", none, "Kaurna"⟩,
  ⟨"zkv", none, "Krevinian"⟩,
  ⟨"zkz", none, "Khazar"⟩,
  ⟨"zla", none, "Zula"⟩,
  ⟨"zlj", none, "Liujiang Zhuang"⟩,
  ⟨"zlm", none, "Malay"⟩,
  ⟨"zln", none, "Lianshan Zhuang"⟩,
  ⟨"zlq", none, "Liuqian Zhuang"⟩,
  ⟨"zma", none, "Manda"⟩,
  ⟨"zmb", none, "Zimba"⟩,
  ⟨"zmc", none, "Margany"⟩,
  ⟨"zmd", none, "Maridan"⟩,
  ⟨"zme", none, "Mangerr"⟩,
  ⟨"zmf", none, "Mfinu"⟩,
  ⟨"zmg", none, "Marti Ke"⟩,
  ⟨"zmh", none, "Makolkol"⟩,
  ⟨"zmi", none, "Negeri Sembilan Malay"⟩,
  ⟨"zmj", none, "Maridjabin"⟩,
  ⟨"zmk", none, "Mandandanyi"⟩,
  ⟨"zml", none, "Matngala"⟩,
  ⟨"zmm", none, "Marimanindji"⟩,
  ⟨"zmn", none, "Mbangwe"⟩,
  ⟨"zmo", none, "Molo"⟩,
  ⟨"zmp", none, "Mpuono"⟩,
  ⟨"zmq", none, "Mituku"⟩,
  ⟨"zmr", none, "Maranunggu"⟩,
  ⟨"zms", none, "Mbesa"⟩,
  ⟨"zmt", none, "Maringarr"⟩,
  ⟨"zmu", none, "Muruwari"⟩,
  ⟨"zmv", none, "Mbariman-Gudhinma"⟩,
  ⟨"zmw", none, "Mbo"⟩,
  ⟨"zmx", none, "Bomitaba"⟩,
  ⟨"zmy", none, "Mariyedi"⟩,
  ⟨"zmz", none, "Mbandja"⟩,
  ⟨"zna", none, "Zan Gula"⟩,
  ⟨"zne", none, "Zande"⟩,
  ⟨"zng", none, "Mang"⟩,
  ⟨"znk", none, "Manangkari"⟩,
  ⟨"zns", none, "Mangas"⟩,
  ⟨"zoc", none, "Copainalá Zoque"⟩,
  ⟨"zoh", none, "Chimalapa Zoque"⟩,
  ⟨"zom", none, "Zou"⟩,
  ⟨"zoo", none, "Asunción Mixtepec Zapotec"⟩,
  ⟨"zoq", none, "Tabasco Zoque"⟩,
  ⟨"zor", none, "Rayón Zoque"⟩,
  ⟨"zos", none, "Francisco León Zoque"⟩,
  ⟨"zpa", none, "Lachiguiri Zapotec"⟩,
  ⟨"zpb", none, "Yautepec Zapotec"⟩,
  ⟨"zpc", none, "Choapan Zapotec"⟩,
  ⟨"zpd", none, "Southeastern Ixtlán Zapotec"⟩,
  ⟨"zpe", none, "Petapa Zapotec"⟩,
  ⟨"zpf", none, "San Pedro Quiatoni Zapotec"⟩,
  ⟨"zpg", none, "Guevea De Humboldt Zapotec"⟩,
  ⟨"zph", none, "Totomachapan Zapotec"⟩,
  ⟨"zpi", none, "Santa María Quiegolani Zapotec"⟩,
  ⟨"zpj", none, "Quiavicuzas Zapotec"⟩,
  ⟨"zpk", none, "Tlacolulita Zapotec"⟩,
  ⟨"zpl", none, "Lachixío Zapotec"⟩,
  ⟨"zpm", none, "Mixtepec Zapotec"⟩,
  ⟨"zpn", none, "Santa Inés Yatzechi Zapotec"⟩,
  ⟨"zpo", none, "Amatlán Zapotec"⟩,
  ⟨"zpp", none, "El Alto Zapotec"⟩,
  ⟨"zpq", none, "Zoogocho Zapotec"⟩,
  ⟨"zpr", none, "Santiago Xanica Zapotec"⟩,
  ⟨"zps", none, "Coatlán Zapotec"⟩,
  ⟨"zpt", none, "San Vicente Coatlán Zapotec"⟩,
  ⟨"zpu", none, "Yalálag Zapotec"⟩,
  ⟨"zpv", none, "Chichicapan Zapotec"⟩,
  ⟨"zpw", none, "Zaniza Zapotec"⟩,
  ⟨"zpx", none, "San Baltazar Loxicha Zapotec"⟩,
  ⟨"zpy", none, "Mazaltepec Zapotec"⟩,
  ⟨"zpz", none, "Texmelucan Zapotec"⟩,
  ⟨"zqe", none, "Qiubei Zhuang"⟩,
  ⟨"zra", none, "Kara"⟩,
  ⟨"zrg", none, "Mirgan"⟩,
  ⟨"zrn", none, "Zerenkel"⟩,
  ⟨"zro", none, "Záparo"⟩,
  ⟨"zrp", none, "Zarphatic"⟩,
  ⟨"zrs", none, "Mairasi"⟩,
  ⟨"zsa", none, "Sarasira"⟩,
  ⟨"zsk", none, "Kaskean"⟩,
  ⟨"zsl", none, "Zambian Sign Language"⟩,
  ⟨"zsm", none, "Standard Malay"⟩,
  ⟨"zsr", none, "Southern Rincon Zapotec"⟩,
  ⟨"zsu", none, "Sukurum"⟩,
  ⟨"zte", none, "Elotepec Zapotec"⟩,
  ⟨"ztg", none, "Xanaguía Zapotec"⟩,
  ⟨"ztl", none, "Lapaguía-Guivini Zapotec"⟩,
  ⟨"ztm", none, "San Agustín Mixtepec Zapotec"⟩,
  ⟨"ztn", none, "Santa Catarina Albarradas Zapotec"⟩,
  ⟨"ztp", none, "Loxicha Zapotec"⟩,
  ⟨"ztq", none, "Quioquitani-Quierí Zapotec"⟩,
  ⟨"zts", none, "Tilquiapan Zapotec"⟩,
  ⟨"ztt", none, "Tejalapan Zapotec"⟩,
  ⟨"ztu", none, "Güilá Zapotec"⟩,
  ⟨"ztx", none, "Zaachila Zapotec"⟩,
  ⟨"zty", none, "Yatee Zapotec"⟩,
  ⟨"zua", none, "Zeem"⟩,
  ⟨"zuh", none, "Tokano"⟩,
  ⟨"zul", some "zu", "Zulu"⟩,
  ⟨"zum", none, "Kumzari"⟩,
  ⟨"zun", none, "Zuni"⟩,
  ⟨"zuy", none, "Zumaya"⟩,
  ⟨"zwa", none, "Zay"⟩,
  ⟨"zxx", none, "No linguistic content"⟩,
  ⟨"zyb", none, "Yongbei Zhuang"⟩,
  ⟨"zyg", none, "Yang Zhuang"⟩,
  ⟨"zyj", none, "Youjiang Zhuang"⟩,
  ⟨"zyn", none, "Yongnan Zhuang"⟩,
  ⟨"zyp", none, "Zyphe Chin"⟩,
  ⟨"zza", none, "Zaza"⟩,
  ⟨"zzj", none, "Zuojiang Zhuang"⟩]

end SubtitleQueue.Language
