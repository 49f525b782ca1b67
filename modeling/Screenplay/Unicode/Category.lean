import Screenplay.Unicode.CodeSet
import Screenplay.Unicode.Data.Categories

/-!
# General categories

Every code point has exactly one general category.  Patterns name categories and
groups of categories, and the quoted form of a text asks whether a character is
printable, which is a matter of its category.
-/

namespace Screenplay.Unicode

/-- The general categories, under their abbreviations. -/
inductive Category where
  | lu | ll | lt | lm | lo
  | mn | mc | me
  | nd | nl | no
  | pc | pd | ps | pe | pi | pf | po
  | sm | sc | sk | so
  | zs | zl | zp
  | cc | cf | cs | co | cn
  deriving DecidableEq, Repr

namespace Category

/-- The categories with the abbreviations that stand in the table. -/
def abbreviations : List (String × Category) :=
  [("Lu", .lu), ("Ll", .ll), ("Lt", .lt), ("Lm", .lm), ("Lo", .lo),
    ("Mn", .mn), ("Mc", .mc), ("Me", .me),
    ("Nd", .nd), ("Nl", .nl), ("No", .no),
    ("Pc", .pc), ("Pd", .pd), ("Ps", .ps), ("Pe", .pe), ("Pi", .pi), ("Pf", .pf),
    ("Po", .po),
    ("Sm", .sm), ("Sc", .sc), ("Sk", .sk), ("So", .so),
    ("Zs", .zs), ("Zl", .zl), ("Zp", .zp),
    ("Cc", .cc), ("Cf", .cf), ("Cs", .cs), ("Co", .co), ("Cn", .cn)]

/-- The general categories of all code points: where each run starts, and the
category it has. -/
structure Table where
  starts : Array Nat
  categories : Array Category

/-- Read the written form of the table, whose fields are the length of a run and
the abbreviation of its category. -/
def Table.ofText (text : String) : Table :=
  let (starts, categories, _) := (fields text).foldl
    (fun (starts, categories, position) field =>
      let abbreviation := String.ofList (field.drop (field.length - 2))
      let length := (Text.readHex? (field.take (field.length - 2))).getD 0
      let category := (abbreviations.lookup abbreviation).getD .cn
      (starts.push position, categories.push category, position + length))
    (#[], #[], 0)
  ⟨starts, categories⟩

/-- The code points at which a run starts. -/
def Table.edges (table : Table) : List Nat :=
  table.starts.toList

/-- The table of the character database. -/
def table : Table := Table.ofText Data.categories

/-- The general category of a character. -/
def ofChar (character : Char) : Category :=
  table.categories.getD (countUpTo table.starts character.toNat - 1) .cn

/-- The categories that patterns can name, by name in lower case and without
separators.  A group of categories has its own names.  Surrogates, which are not
characters, have none. -/
def named : List (List String × List Category) :=
  [(["lu", "uppercaseletter"], [.lu]),
    (["ll", "lowercaseletter"], [.ll]),
    (["lt", "titlecaseletter"], [.lt]),
    (["lc", "casedletter"], [.lu, .ll, .lt]),
    (["lm", "modifierletter"], [.lm]),
    (["lo", "otherletter"], [.lo]),
    (["l", "letter"], [.lu, .ll, .lt, .lm, .lo]),
    (["mn", "nonspacingmark"], [.mn]),
    (["mc", "spacingmark"], [.mc]),
    (["me", "enclosingmark"], [.me]),
    (["m", "mark", "combiningmark"], [.mn, .mc, .me]),
    (["nd", "decimalnumber", "digit"], [.nd]),
    (["nl", "letternumber"], [.nl]),
    (["no", "othernumber"], [.no]),
    (["n", "number"], [.nd, .nl, .no]),
    (["pc", "connectorpunctuation"], [.pc]),
    (["pd", "dashpunctuation"], [.pd]),
    (["ps", "openpunctuation"], [.ps]),
    (["pe", "closepunctuation"], [.pe]),
    (["pi", "initialpunctuation"], [.pi]),
    (["pf", "finalpunctuation"], [.pf]),
    (["po", "otherpunctuation"], [.po]),
    (["p", "punctuation", "punct"], [.pc, .pd, .ps, .pe, .pi, .pf, .po]),
    (["sm", "mathsymbol"], [.sm]),
    (["sc", "currencysymbol"], [.sc]),
    (["sk", "modifiersymbol"], [.sk]),
    (["so", "othersymbol"], [.so]),
    (["s", "symbol"], [.sm, .sc, .sk, .so]),
    (["zs", "spaceseparator"], [.zs]),
    (["zl", "lineseparator"], [.zl]),
    (["zp", "paragraphseparator"], [.zp]),
    (["z", "separator"], [.zs, .zl, .zp]),
    (["cc", "control", "cntrl"], [.cc]),
    (["cf", "format"], [.cf]),
    (["co", "privateuse"], [.co]),
    (["cn", "unassigned"], [.cn]),
    (["c", "other"], [.cc, .cf, .cs, .co, .cn])]

end Category

/-- Whether a character has a visible form of its own.  Controls, format
characters, unassigned and private code points do not, nor do separators other
than the space. -/
def isPrintable (character : Char) : Bool :=
  if character.toNat < 0x7F then
    0x20 ≤ character.toNat
  else
    match Category.ofChar character with
    | .cc | .cf | .cs | .co | .cn | .zs | .zl | .zp => false
    | _ => true

end Screenplay.Unicode
