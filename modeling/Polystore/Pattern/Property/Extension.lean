import Polystore.Pattern.Property.Coding

/-!
# Script extensions

Characters that are used in several scripts belong to the script extensions of
each of these, whatever script they have themselves.
-/

namespace Polystore.Pattern.Property

/-- For each script the characters of other scripts, common ones among them, that
are used in it. -/
def extensionListings : List Listing := [
  ⟨["adlm", "adlam"],
    ["17j 0 w 0 55a 0 2r5 0"]⟩,
  ⟨["aghb", "caucasianalbanian"],
    ["lg 0 18 0 18 0"]⟩,
  ⟨["arab", "arabic"],
    ["170 0 e 0 3 0 w 0 a a q 0 53y 0 2r5 0 14vw 1 140 r"]⟩,
  ⟨["armn", "armenian"],
    ["lk 0"]⟩,
  ⟨["avst", "avestan"],
    ["53 0 8zc 1"]⟩,
  ⟨["beng", "bengali"],
    ["jg 0 1as 1 h 1 3u2 0 1 0 2 1 1 0 8 0 8 0 2 0 4 0 2 2 rnd 0"]⟩,
  ⟨["bopo", "bopomofo"],
    ["jr 0 1 2 d 0 8x3 2 4 9 1 c a 3 2 0 6 0 5f 0 14jt 1 7u 4"]⟩,
  ⟨["bugi", "buginese"],
    ["xjj 0"]⟩,
  ⟨["buhd", "buhid"],
    ["4l1 1"]⟩,
  ⟨["cakm", "chakma"],
    ["1ye 9 18w 9"]⟩,
  ⟨["cari", "carian"],
    ["53 0 68y 0 2 0 2qb 0"]⟩,
  ⟨["cher", "cherokee"],
    ["lc 2 1 0 6 1 m 1 b 1"]⟩,
  ⟨["copt", "coptic", "qaac"],
    ["53 0 g8 0 3 1 1 0 30 1 8f5 0 1614 r"]⟩,
  ⟨["cpmn", "cyprominoan"],
    ["1erk 1"]⟩,
  ⟨["cprt", "cypriot"],
    ["1erk 2 4 18 3 8"]⟩,
  ⟨["cyrl", "cyrillic"],
    ["jg 0 1v 2 1 0 1 0 1 0 2 0 5 0 ab 1 50x 0 37u 0"]⟩,
  ⟨["deva", "devanagari"],
    ["jg 0 1as 1 h 1 3u2 12 1 1 s6 0 qpr 9"]⟩,
  ⟨["dogr", "dogra"],
    ["1us b vcw 9"]⟩,
  ⟨["dupl", "duployan"],
    ["53 0 gf 1 1 0 o 1 8if 0 26oz 3"]⟩,
  ⟨["elba", "elbasan"],
    ["53 0 gd 0"]⟩,
  ⟨["ethi", "ethiopic"],
    ["lq 0"]⟩,
  ⟨["gara", "garay"],
    ["170 0 e 0 3 0"]⟩,
  ⟨["geor", "georgian"],
    ["53 0 y9 0 29d 0 31a 0 2qe 0"]⟩,
  ⟨["glag", "glagolitic"],
    ["53 0 gb 0 1 0 am 0 2 0 75 0 29d 0 31a 0 2qw 0 nqj 0"]⟩,
  ⟨["gong", "gunjalagondi"],
    ["53 0 1po 1"]⟩,
  ⟨["gonm", "masaramgondi"],
    ["1us 1"]⟩,
  ⟨["goth", "gothic"],
    ["53 0 gc 1 2 0 14 0"]⟩,
  ⟨["gran", "grantha"],
    ["1u9 1 h 1 hs d 3bw 0 1 1 u 2 3 1 s6 0 1buy 0 2hg 1 1 0"]⟩,
  ⟨["grek", "greek"],
    ["53 0 g8 1 2 0 1 0 1 0 a 0 1a 0 2 0 1a 0 56z 1 ij 0"]⟩,
  ⟨["gujr", "gujarati"],
    ["1u9 1 h 1 vd6 9"]⟩,
  ⟨["gukh", "gurungkhema"],
    ["1ut 0"]⟩,
  ⟨["guru", "gurmukhi"],
    ["1u9 1 h 1 vd6 9"]⟩,
  ⟨["hang", "hangul"],
    ["9hd 2 4 9 1 c g 0 6 0 5f 0 14jt 1 7u 4"]⟩,
  ⟨["hani", "han"],
    ["53 0 9bs f 1 2 2 0 1 9 1 c a 3 2 0 6 0 4 3 57 0 44 f w 11 9 0 1c 13 1k 1c f b 1f 0 2g o",
     "a 4 2o u mpt 7 h8d 1 7u 4 15ve h 63i 1"]⟩,
  ⟨["hano", "hanunoo"],
    ["4l1 1"]⟩,
  ⟨["hebr", "hebrew"],
    ["lj 1"]⟩,
  ⟨["hira", "hiragana"],
    ["9hd 2 4 9 1 c g 5 1 0 4 1 2j 3 3 0 2i 1 14js 1 7u 4 a 0 19 1"]⟩,
  ⟨["hung", "oldhungarian"],
    ["6e2 0 2 0 2qb 0 f 0"]⟩,
  ⟨["java", "javanese"],
    ["xjj 0"]⟩,
  ⟨["kali", "kayahli"],
    ["xf2 0"]⟩,
  ⟨["kana", "katakana"],
    ["lh 0 t 0 8v1 2 4 9 1 c g 5 1 0 4 1 2j 3 3 0 2i 1 14js 1 7u 4 a 0 19 1"]⟩,
  ⟨["khoj", "khojki"],
    ["25i 9 v28 9"]⟩,
  ⟨["knda", "kannada"],
    ["1u9 1 h 1 3u2 0 1 1 6 0 n 0 1 0 ri3 5"]⟩,
  ⟨["kthi", "kaithi"],
    ["1uu 9 79d 0 o3i 9"]⟩,
  ⟨["latn", "latin"],
    ["53 0 ec 0 a 0 1 2 1 0 9 0 1 0 12 e 1 1 1 0 f 2 7 1 1 1 12 0 5 0 4 c 7p 1 y2 1 1ig 0 2kc",
     "0 fq 0 5c 0 2li 0 nvs 7 fa 0"]⟩,
  ⟨["limb", "limbu"],
    ["1ut 0"]⟩,
  ⟨["lina", "lineara"],
    ["1err 18"]⟩,
  ⟨["linb", "linearb"],
    ["1erk 2 4 18 3 8"]⟩,
  ⟨["lisu"],
    ["jg 0 g 0 8xo 1"]⟩,
  ⟨["lyci", "lycian"],
    ["6e2 0"]⟩,
  ⟨["lydi", "lydian"],
    ["53 0 8zd 0"]⟩,
  ⟨["mahj", "mahajani"],
    ["53 0 1po b vcw 9"]⟩,
  ⟨["mand", "mandaic"],
    ["18g 0"]⟩,
  ⟨["mani", "manichaean"],
    ["18g 0"]⟩,
  ⟨["mero", "meroitichieroglyphs"],
    ["6e5 0"]⟩,
  ⟨["mlym", "malayalam"],
    ["1u9 1 h 1 3uc 0 n 0 ri5 2"]⟩,
  ⟨["modi"],
    ["x80 9"]⟩,
  ⟨["mong", "mongolian"],
    ["4qq 1 1 0 1m1 0 34h 1 5 3"]⟩,
  ⟨["mult", "multani"],
    ["21y 9"]⟩,
  ⟨["mymr", "myanmar"],
    ["xf2 0"]⟩,
  ⟨["nand", "nandinagari"],
    ["1u9 0 i 1 ow 9 35l 0 8 0 7 0 rhx 5"]⟩,
  ⟨["newa"],
    ["1u9 1 3uq 0 1 1 9 0 6 0 1 0 1 0"]⟩,
  ⟨["nkoo", "nko"],
    ["170 0 e 0 3 0 1cta 1"]⟩,
  ⟨["onao", "olonal"],
    ["1us 1"]⟩,
  ⟨["orkh", "oldturkic"],
    ["6e2 0 2qd 0"]⟩,
  ⟨["orya", "oriya"],
    ["1u9 1 h 1 3uc 0 n 0"]⟩,
  ⟨["osge", "osage"],
    ["ld 0 2 0 6 0 24 0"]⟩,
  ⟨["ougr", "olduyghur"],
    ["18g 0 1fht 0"]⟩,
  ⟨["perm", "oldpermic"],
    ["53 0 g8 0 5 2 a 0 a7 0"]⟩,
  ⟨["phag", "phagspa"],
    ["4qq 1 1 0 1m1 0 34i 0"]⟩,
  ⟨["phlp", "psalterpahlavi"],
    ["18g 0"]⟩,
  ⟨["rohg", "hanifirohingya"],
    ["170 0 e 0 3 0 w 0 43 0"]⟩,
  ⟨["runr", "runic"],
    ["4iz 2"]⟩,
  ⟨["samr", "samaritan"],
    ["94h 0"]⟩,
  ⟨["shaw", "shavian"],
    ["53 0"]⟩,
  ⟨["shrd", "sharada"],
    ["1u9 0 3ut 0 1 0 2 1 2 0 9 0 2 0 ria 5 2 0"]⟩,
  ⟨["sind", "khudawadi"],
    ["1us 1 vd6 9"]⟩,
  ⟨["sinh", "sinhala"],
    ["1us 1 3v0 0"]⟩,
  ⟨["sogd", "sogdian"],
    ["18g 0"]⟩,
  ⟨["sunu", "sunuwar"],
    ["lc 1 1 0 9 0 2 0 s 0 3 0"]⟩,
  ⟨["sylo", "sylotinagri"],
    ["1us 1 3k 9"]⟩,
  ⟨["syrc", "syriac"],
    ["lf 1 2 1 1 0 o 2 7 1 1 1 ka 0 e 1 2 0 w 0 a a q 0 4nb 0 1 0"]⟩,
  ⟨["tagb", "tagbanwa"],
    ["4l1 1"]⟩,
  ⟨["takr", "takri"],
    ["1us 1 vd6 9"]⟩,
  ⟨["tale", "taile"],
    ["lc 1 5 1 3 0 2lv 9"]⟩,
  ⟨["taml", "tamil"],
    ["1u9 1 h 1 3uc 0 ro8 0 ky5 0 1 0 1j 1"]⟩,
  ⟨["tang", "tangut"],
    ["9gw f dr 0"]⟩,
  ⟨["telu", "telugu"],
    ["1u9 1 h 1 3u7 1 1 0 1 0 n 0"]⟩,
  ⟨["tfng", "tifinagh"],
    ["le 0 1 0 1 3 p 0"]⟩,
  ⟨["tglg", "tagalog"],
    ["4l1 1"]⟩,
  ⟨["thaa", "thaana"],
    ["170 0 e 1 2 0 1s 9 1cw8 0 a 0"]⟩,
  ⟨["thai"],
    ["jg 0 q 0 17 0 19 0"]⟩,
  ⟨["tibt", "tibetan"],
    ["9hk 3"]⟩,
  ⟨["tirh", "tirhuta"],
    ["1u9 1 h 1 3u7 0 c 0 f 0 ri5 9"]⟩,
  ⟨["todr", "todhri"],
    ["ld 0 2 0 2 0 9 0 1 0 22 0"]⟩,
  ⟨["toto"],
    ["jg 0"]⟩,
  ⟨["tutg", "tulutigalari"],
    ["2jq 9 35u 0 1 0 ri3 5 57 0"]⟩,
  ⟨["yezi", "yezidi"],
    ["170 0 e 0 3 0 1s 9"]⟩,
  ⟨["yiii", "yi"],
    ["9hd 1 5 9 2 7 67 0 14rp 4"]⟩]

end Polystore.Pattern.Property
