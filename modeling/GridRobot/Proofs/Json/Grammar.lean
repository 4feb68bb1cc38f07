import GridRobot.Json.Value
import Mathlib.Data.List.Forall2

/-! JSON texts, described apart from any reader. Between tokens there may be space; a string
is what stands between two quotes, with a meaning if its surrogates come in pairs; a list and
an object are their items and members in order, each as it is written. -/
namespace GridRobot.Json

def spaces : List Char := [' ','\n','\t','\r']

structure Gap where
  chars : List Char
  space : ∀ c ∈ chars, c ∈ spaces

namespace Gap

def none : Gap := ⟨[],by simp⟩

end Gap

/- What may follow a value: space, the next item or member, the end of the list or the object
it is in, or nothing. -/
def Ends (rest : List Char) : Prop := ∀ c ∈ rest.head?, c ∈ spaces ++ [',',']','}']

def Ordinary (c : Char) : Prop := c ≠ '"' ∧ c ≠ '\\' ∧ 0x20 ≤ c.toNat

def shortEscapes : List (Char × Char) :=
  [('"','"'),('\\','\\'),('/','/'),('b','\x08'),('f','\x0c'),('n','\n'),('r','\r'),('t','\t')]

def Quad (q : List Char) (n : Nat) : Prop :=
  ∃ i j k l, q.map Text.hexDigit? = [some i,some j,some k,some l] ∧
    n = ((i * 16 + j) * 16 + k) * 16 + l

/- Between two quotes: every escape is one, but a surrogate may stand alone. -/
inductive TextForm : List Char → Prop where
  | done : TextForm []
  | plain {c cs} (ordinary : Ordinary c) (later : TextForm cs) : TextForm (c :: cs)
  | short {e c cs} (escape : (e,c) ∈ shortEscapes) (later : TextForm cs) :
      TextForm ('\\' :: e :: cs)
  | unit {q n cs} (quad : Quad q n) (later : TextForm cs) : TextForm ('\\' :: 'u' :: (q ++ cs))

inductive Means : List Char → List Char → Prop where
  | done : Means [] []
  | plain {c cs s} (ordinary : Ordinary c) (later : Means cs s) : Means (c :: cs) (c :: s)
  | short {e c cs s} (escape : (e,c) ∈ shortEscapes) (later : Means cs s) :
      Means ('\\' :: e :: cs) (c :: s)
  | unit {q n cs s} (quad : Quad q n) (whole : n < 0xD800 ∨ 0xDFFF < n) (later : Means cs s) :
      Means ('\\' :: 'u' :: (q ++ cs)) (Char.ofNat n :: s)
  | pair {q q' high low cs s} (first : Quad q high) (second : Quad q' low)
      (leading : 0xD800 ≤ high ∧ high ≤ 0xDBFF) (trailing : 0xDC00 ≤ low ∧ low ≤ 0xDFFF)
      (later : Means cs s) :
      Means ('\\' :: 'u' :: (q ++ '\\' :: 'u' :: (q' ++ cs)))
        (Char.ofNat (0x10000 + (high - 0xD800) * 0x400 + (low - 0xDC00)) :: s)

theorem Means.form {cs s : List Char} (means : Means cs s) : TextForm cs := by
  induction means with
  | done => exact .done
  | plain ordinary _ ih => exact .plain ordinary ih
  | short escape _ ih => exact .short escape ih
  | unit quad _ _ ih => exact .unit quad ih
  | pair first second _ _ _ ih => exact .unit first (.unit second ih)

theorem plainMeans {s : List Char} (ordinary : ∀ c ∈ s, Ordinary c) : Means s s := by
  induction s with
  | nil => exact .done
  | cons c s ih =>
    obtain ⟨first,later⟩ := List.forall_mem_cons.mp ordinary
    exact .plain first (ih later)

def TextOf (s : String) (cs : List Char) : Prop :=
  ∃ quoted, Means quoted s.toList ∧ cs = '"' :: (quoted ++ ['"'])

def Digits (ds : List Char) : Prop := ds ≠ [] ∧ ∀ d ∈ ds, d.isDigit = true

def WholeForm (cs : List Char) : Prop := cs = ['0'] ∨ Digits cs ∧ cs.head? ≠ some '0'

def FractionForm (cs : List Char) : Prop := cs = [] ∨ ∃ ds, Digits ds ∧ cs = '.' :: ds

def PowerForm (cs : List Char) : Prop :=
  cs = [] ∨ ∃ e sign ds, (e = 'e' ∨ e = 'E') ∧ (sign = [] ∨ sign = ['+'] ∨ sign = ['-']) ∧
    Digits ds ∧ cs = e :: (sign ++ ds)

def NumberForm (cs : List Char) : Prop :=
  ∃ minus whole fraction power, (minus = [] ∨ minus = ['-']) ∧ WholeForm whole ∧
    FractionForm fraction ∧ PowerForm power ∧ cs = minus ++ (whole ++ (fraction ++ power))

structure Item where
  before : Gap
  value : List Char
  after : Gap

def Item.text (i : Item) : List Char := i.before.chars ++ (i.value ++ i.after.chars)

/- The key is kept as it is written between its quotes. -/
structure Member where
  before : Gap
  key : List Char
  beforeColon : Gap
  afterColon : Gap
  value : List Char
  after : Gap

def Member.text (m : Member) : List Char :=
  m.before.chars ++ '"' :: (m.key ++ '"' :: (m.beforeColon.chars ++ ':' ::
    (m.afterColon.chars ++ (m.value ++ m.after.chars))))

def listText (items : List Item) (last : Gap) : List Char :=
  '[' :: ([','].intercalate (items.map Item.text) ++ (last.chars ++ [']']))

def objectText (members : List Member) (last : Gap) : List Char :=
  '{' :: ([','].intercalate (members.map Member.text) ++ (last.chars ++ ['}']))

def ListOf {α : Type} (fits : α → List Char → Prop) (as : List α) (cs : List Char) : Prop :=
  ∃ items last, cs = listText items last ∧ List.Forall₂ fits as (items.map Item.value)

theorem ListOf.imp {α : Type} {fits fits' : α → List Char → Prop} {as : List α} {cs : List Char}
    (weaker : ∀ a cs, fits a cs → fits' a cs) (listed : ListOf fits as cs) : ListOf fits' as cs := by
  obtain ⟨items,last,rfl,each⟩ := listed
  exact ⟨items,last,rfl,each.imp weaker⟩

theorem ListOf.through {α β : Type} {rel : α → β → Prop} {fits : β → List Char → Prop} {as : List α}
    {bs : List β} {cs : List Char} (pairs : List.Forall₂ rel as bs) (listed : ListOf fits bs cs) :
    ListOf (fun a cs => ∃ b, rel a b ∧ fits b cs) as cs := by
  obtain ⟨items,last,rfl,each⟩ := listed
  refine ⟨items,last,rfl,?_⟩
  generalize items.map Item.value = parts at each
  induction pairs generalizing parts with
  | nil =>
    cases each
    exact .nil
  | @cons a b as bs pair _ ih =>
    cases each with
    | cons fit each => exact .cons ⟨b,pair,fit⟩ (ih _ each)

theorem listOfMap {α β : Type} {fits : β → List Char → Prop} {f : α → β} {as : List α}
    {cs : List Char} : ListOf fits (as.map f) cs ↔ ListOf (fun a => fits (f a)) as cs := by
  simp only [ListOf,List.forall₂_map_left_iff]

inductive ValueForm : List Char → Prop where
  | null : ValueForm "null".toList
  | bool (b : Bool) : ValueForm (writeBool b)
  | number {cs} (form : NumberForm cs) : ValueForm cs
  | text {cs} (form : TextForm cs) : ValueForm ('"' :: (cs ++ ['"']))
  | list {items last} (each : ∀ i ∈ items, ValueForm i.value) : ValueForm (listText items last)
  | object {members last} (keys : ∀ m ∈ members, TextForm m.key)
      (each : ∀ m ∈ members, ValueForm m.value) : ValueForm (objectText members last)

structure Named extends Member where
  name : String
  means : Means key name.toList

inductive Tells : Value → List Char → Prop where
  | null : Tells .null "null".toList
  | bool (b : Bool) : Tells (.bool b) (writeBool b)
  | number (n : Nat) : Tells (.number n) (writeNat n)
  | text {s cs} (text : TextOf s cs) : Tells (.text s) cs
  | list {vs} {items : List Item} {last : Gap} (each : List.Forall₂ Tells vs (items.map Item.value)) :
      Tells (.list vs) (listText items last)
  | object {ms : List (String × Value)} {members : List Named} {last : Gap}
      (names : members.map Named.name = ms.map Prod.fst)
      (each : List.Forall₂ Tells (ms.map Prod.snd) (members.map fun m => m.value)) :
      Tells (.object ms) (objectText (members.map Named.toMember) last)

theorem tellsList {vs : List Value} {cs : List Char} : Tells (.list vs) cs ↔ ListOf Tells vs cs := by
  constructor
  · intro tells
    cases tells with
    | list each => exact ⟨_,_,rfl,each⟩
  · rintro ⟨items,last,rfl,each⟩
    exact .list each

theorem Tells.textOf {s : String} {cs : List Char} (tells : Tells (.text s) cs) : TextOf s cs := by
  cases tells with
  | text text => exact text

theorem Tells.nothing {cs : List Char} (tells : Tells .null cs) : cs = "null".toList := by
  cases tells
  rfl

theorem Tells.natural {n : Nat} {cs : List Char} (tells : Tells (.number n) cs) :
    cs = writeNat n := by
  cases tells
  rfl

structure ListText where
  before : Gap
  items : List Item
  last : Gap
  after : Gap

structure ObjectText where
  before : Gap
  members : List Named
  last : Gap
  after : Gap

def ListText.text (l : ListText) : String :=
  String.ofList (l.before.chars ++ (listText l.items l.last ++ l.after.chars))

def ObjectText.text (o : ObjectText) : String :=
  String.ofList (o.before.chars ++
    (objectText (o.members.map Named.toMember) o.last ++ o.after.chars))

def DocumentOf (v : Value) (s : String) : Prop :=
  ∃ (before after : Gap) (cs : List Char), Tells v cs ∧
    s = String.ofList (before.chars ++ (cs ++ after.chars))

end GridRobot.Json
