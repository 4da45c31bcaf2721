import DocLint.Unicode.Script

/-!
# Characters of several scripts

The Unicode property `Script_Extensions`: a character that is used with several scripts belongs to each of
them, and then no longer to those that stand for any script.
-/

namespace DocLint.Unicode

/-- The characters that a script has beside its own ones, by the shortest name of the script. -/
def sharedCharacters : List (String × Table) := [
  ("adlm", .runs ["61f 640 204f 2e41"]),
  ("aghb", .runs ["304 331 35e"]),
  ("arab", .runs ["60c 61b 61f 640 64b-655 670 204f 2e41 fd3e-fd3f 102e0-102fb"]),
  ("armn", .runs ["308"]),
  ("avst", .runs ["b7 2e30-2e31"]),
  ("beng", .runs [
      "2bc 951-952 964-965 1cd0 1cd2 1cd5-1cd6 1cd8 1ce1 1cea 1ced 1cf2 1cf5-1cf7 a8f1"]),
  ("bopo", .runs [
      "2c7 2c9-2cb 2d9 3001-3003 3008-3011 3013-301f 302a-302d 3030 3037 30fb fe45-fe46",
      "ff61-ff65"]),
  ("bugi", .runs ["a9cf"]),
  ("buhd", .runs ["1735-1736"]),
  ("cakm", .runs ["9e6-9ef 1040-1049"]),
  ("cari", .runs ["b7 205a 205d 2e31"]),
  ("cher", .runs ["300-302 304 30b-30c 323-324 330-331"]),
  ("copt", .runs ["b7 300 304-305 307 374-375 2e17 102e0-102fb"]),
  ("cpmn", .runs ["10100-10101"]),
  ("cprt", .runs ["10100-10102 10107-10133 10137-1013f"]),
  ("cyrl", .runs ["2bc 300-302 304-308/2 30b 311 485-486 1df8 2e43"]),
  ("deva", .runs ["2bc 951-952 964-965 1cd0-1cf6 1cf8-1cf9 20f0 a830-a839"]),
  ("dogr", .runs ["964-96f a830-a839"]),
  ("dupl", .runs ["b7 307-308 30a 323-324 2e3c 1bca0-1bca3"]),
  ("elba", .runs ["b7 305"]),
  ("ethi", .runs ["30e"]),
  ("gara", .runs ["60c 61b 61f"]),
  ("geor", .runs ["b7 589 10fb 205a 2e31"]),
  ("glag", .runs ["b7 303 305 484 487 589 10fb 205a 2e43 a66f"]),
  ("gong", .runs ["b7 964-965"]),
  ("gonm", .runs ["964-965"]),
  ("goth", .runs ["b7 304-305 308 331"]),
  ("gran", .runs [
      "951-952 964-965 be6-bf3 1cd0 1cd2-1cd3 1cf2-1cf4 1cf8-1cf9 20f0 1133b 11fd0-11fd1",
      "11fd3"]),
  ("grek", .runs ["b7 300-301 304-308/2 313 342 345 374 1dc0-1dc1 205d"]),
  ("gujr", .runs ["951-952 964-965 a830-a839"]),
  ("gukh", .runs ["965"]),
  ("guru", .runs ["951-952 964-965 a830-a839"]),
  ("hang", .runs ["3001-3003 3008-3011 3013-301f 3030 3037 30fb fe45-fe46 ff61-ff65"]),
  ("hani", .runs [
      "b7 2ff0-2fff 3001-3003 3006 3008-3011 3013-301f 302a-302d 3030 3037 303c-303f 30fb",
      "3190-319f 31c0-31e5 31ef 3220-3247 3280-32b0 32c0-32cb 32ff 3358-3370 337b-337f",
      "33e0-33fe a700-a707 fe45-fe46 ff61-ff65 1d360-1d371 1f250-1f251"]),
  ("hano", .runs ["1735-1736"]),
  ("hebr", .runs ["307-308"]),
  ("hira", .runs [
      "3001-3003 3008-3011 3013-301f 3030-3035 3037 303c-303d 3099-309c 30a0 30fb-30fc",
      "fe45-fe46 ff61-ff65 ff70 ff9e-ff9f"]),
  ("hung", .runs ["205a 205d 2e31 2e41"]),
  ("java", .runs ["a9cf"]),
  ("kali", .runs ["a92e"]),
  ("kana", .runs [
      "305 323 3001-3003 3008-3011 3013-301f 3030-3035 3037 303c-303d 3099-309c 30a0",
      "30fb-30fc fe45-fe46 ff61-ff65 ff70 ff9e-ff9f"]),
  ("khoj", .runs ["ae6-aef a830-a839"]),
  ("knda", .runs ["951-952 964-965 1cd0 1cd2-1cd3 1cda 1cf2 1cf4 a830-a835"]),
  ("kthi", .runs ["966-96f 2e31 a830-a839"]),
  ("latn", .runs [
      "b7 2bc 2c7 2c9-2cb 2cd 2d7 2d9 300-30e 310-311 313 320 323-325 32d-32e 330-331 358",
      "35e 363-36f 485-486 951-952 10fb 1df8 202f 20f0 2e17 a700-a707 a92e"]),
  ("limb", .runs ["965"]),
  ("lina", .runs ["10107-10133"]),
  ("linb", .runs ["10100-10102 10107-10133 10137-1013f"]),
  ("lisu", .runs ["2bc 2cd 300a-300b"]),
  ("lyci", .runs ["205a"]),
  ("lydi", .runs ["b7 2e31"]),
  ("mahj", .runs ["b7 964-96f a830-a839"]),
  ("mand", .runs ["640"]),
  ("mani", .runs ["640"]),
  ("mero", .runs ["205d"]),
  ("mlym", .runs ["951-952 964-965 1cda 1cf2 a830-a832"]),
  ("modi", .runs ["a830-a839"]),
  ("mong", .runs ["1802-1803 1805 202f 3001-3002 3008-300b"]),
  ("mult", .runs ["a66-a6f"]),
  ("mymr", .runs ["a92e"]),
  ("nand", .runs ["964-965 ce6-cef 1ce9 1cf2 1cfa a830-a835"]),
  ("nkoo", .runs ["60c 61b 61f fd3e-fd3f"]),
  ("onao", .runs ["964-965"]),
  ("orkh", .runs ["205a 2e30"]),
  ("orya", .runs ["951-952 964-965 1cda 1cf2"]),
  ("osge", .runs ["301 304 30b 358"]),
  ("ougr", .runs ["640 10af2"]),
  ("perm", .runs ["b7 300 306-308 313 483"]),
  ("phag", .runs ["1802-1803 1805 202f 3002"]),
  ("phlp", .runs ["640"]),
  ("rohg", .runs ["60c 61b 61f 640 6d4"]),
  ("runr", .runs ["16eb-16ed"]),
  ("samr", .runs ["2e31"]),
  ("shaw", .runs ["b7"]),
  ("shrd", .runs ["951 1cd7 1cd9 1cdc-1cdd 1ce0 a830-a835 a838"]),
  ("sind", .runs ["964-965 a830-a839"]),
  ("sinh", .runs ["964-965 1cf2"]),
  ("sogd", .runs ["640"]),
  ("sunu", .runs ["300-301 303 30d 310 32d 331"]),
  ("sylo", .runs ["964-965 9e6-9ef"]),
  ("syrc", .runs [
      "303-304 307-308 30a 320 323-325 32d-32e 330 60c 61b-61c 61f 640 64b-655 670 1df8",
      "1dfa"]),
  ("tagb", .runs ["1735-1736"]),
  ("takr", .runs ["964-965 a830-a839"]),
  ("tale", .runs ["300-301 307-308 30c 1040-1049"]),
  ("taml", .runs ["951-952 964-965 1cda a8f3 11301 11303 1133b-1133c"]),
  ("tang", .runs ["2ff0-2fff 31ef"]),
  ("telu", .runs ["951-952 964-965 1cda 1cf2"]),
  ("tfng", .runs ["302 304 307 309"]),
  ("tglg", .runs ["1735-1736"]),
  ("thaa", .runs ["60c 61b-61c 61f 660-669 fdf2 fdfd"]),
  ("thai", .runs ["2bc 2d7 303 331"]),
  ("tibt", .runs ["3008-300b"]),
  ("tirh", .runs ["951-952 964-965 1cf2 a830-a839"]),
  ("todr", .runs ["301-307/3 311 313 35e"]),
  ("toto", .runs ["2bc"]),
  ("tutg", .runs ["ce6-cef 1cf2 1cf4 a830-a835 a8f1"]),
  ("yezi", .runs ["60c 61b 61f 660-669"]),
  ("yiii", .runs ["3001-3002 3008-3011 3014-301b 30fb ff61-ff65"])]

/-- The scripts that stand for any script, by their shortest names. -/
def generalScripts : List String := ["zyyy", "zinh"]

/-- The characters that are used with a script, given by its shortest name and its own characters. -/
def extendedScript (name : String) (own : Table) : Table :=
  if generalScripts.contains name then .diff own (.unionAll (sharedCharacters.map (·.2)))
  else
    match sharedCharacters.find? (·.1 = name) with
    | some s => .union own s.2
    | none => own

end DocLint.Unicode
