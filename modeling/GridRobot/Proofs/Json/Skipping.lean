import GridRobot.Json.Skip
import GridRobot.Proofs.Json.Tokens

/-! Passing over values. Whatever lists and objects are open, a well-formed value is passed to
its end and no further: what is expected next is what is expected after any value there. -/
namespace GridRobot.Json

def resume (p : Passing) (ts : List Token) : Except Halt (List Token) :=
  if p.expecting = .nothing then .ok ts else skipFrom p ts

theorem skipFeed {p p' : Passing} {t : Token} {ts : List Token} (fed : p.feed t ts = .ok p') :
    skipFrom p (t :: ts) = resume p' ts := by
  rw [skipFrom,fed]
  rfl

def ExpectsValue (p : Passing) : Prop := p.expecting = .value ∨ p.expecting = .firstItem

def Passes (cs : List Char) : Prop :=
  ∀ p rest, ExpectsValue p → Ends rest →
    skipFrom p (tokens (cs ++ rest)) = resume (.afterValue p.enclosures) (tokens rest)

theorem feedValue {p p' : Passing} {t : Token} {ts : List Token} (expects : ExpectsValue p)
    (begins : t ≠ .closeList) (fed : Passing.valueToken p.enclosures t ts = .ok p') :
    p.feed t ts = .ok p' := by
  obtain ⟨expecting,enclosures⟩ := p
  rcases expects with same | same
  · cases same
    exact fed
  · cases same
    cases t <;> first | exact fed | contradiction

/-! Lists and objects: their items and members, separated by commas. -/

namespace Enclosure

def first : Enclosure → Expecting
  | list => .firstItem
  | object => .firstKey

def next : Enclosure → Expecting
  | list => .value
  | object => .key

def close : Enclosure → Char
  | list => ']'
  | object => '}'

def PassesPart (inner : Enclosure) (part : List Char) : Prop :=
  ∀ expecting enclosures rest, expecting = inner.first ∨ expecting = inner.next → Ends rest →
    skipFrom ⟨expecting,inner :: enclosures⟩ (tokens (part ++ rest)) =
      resume (.afterValue (inner :: enclosures)) (tokens rest)

variable (inner : Enclosure) {parts : List (List Char)} (each : ∀ part ∈ parts, inner.PassesPart part)
  (enclosures : List Enclosure) (last : Gap) (rest : List Char)

theorem closes {expecting : Expecting} (place : expecting = inner.first ∨ expecting = .separator) :
    skipFrom ⟨expecting,inner :: enclosures⟩ (tokens (last.chars ++ inner.close :: rest)) =
      resume (.afterValue enclosures) (tokens rest) := by
  rw [tokensGap]
  rcases place with rfl | rfl <;> cases inner <;> rw [close,tokensMark rfl] <;> exact skipFeed rfl

theorem endsParts (parts : List (List Char)) :
    Ends (parts.flatMap (',' :: ·) ++ (last.chars ++ inner.close :: rest)) :=
  laterEnds parts (by cases inner <;> simp [close]) rest

include each in
theorem laterPartsPass :
    skipFrom ⟨.separator,inner :: enclosures⟩
        (tokens (parts.flatMap (',' :: ·) ++ (last.chars ++ inner.close :: rest))) =
      resume (.afterValue enclosures) (tokens rest) := by
  induction parts with
  | nil => exact closes inner enclosures last rest (.inr rfl)
  | cons part parts ih =>
    have later := ih fun part inside => each part (List.mem_cons_of_mem _ inside)
    have comma (ts : List Token) : Passing.feed ⟨.separator,inner :: enclosures⟩ .comma ts =
        .ok ⟨inner.next,inner :: enclosures⟩ := by cases inner <;> rfl
    have going (ts : List Token) : resume ⟨inner.next,inner :: enclosures⟩ ts =
        skipFrom ⟨inner.next,inner :: enclosures⟩ ts := by cases inner <;> rfl
    rw [List.flatMap_cons,List.cons_append,List.cons_append,List.append_assoc,tokensMark rfl,
      skipFeed (comma _),going,← later]
    exact each part List.mem_cons_self _ _ _ (.inr rfl) (endsParts inner last rest parts)

include each in
theorem partsPass :
    skipFrom ⟨inner.first,inner :: enclosures⟩
        (tokens ([','].intercalate parts ++ (last.chars ++ inner.close :: rest))) =
      resume (.afterValue enclosures) (tokens rest) := by
  cases parts with
  | nil => exact closes inner enclosures last rest (.inl rfl)
  | cons part parts =>
    have later := laterPartsPass inner (fun part inside => each part (List.mem_cons_of_mem _ inside))
      enclosures last rest
    rw [intercalateCons,List.append_assoc,← later]
    exact each part List.mem_cons_self _ _ _ (.inl rfl) (endsParts inner last rest parts)

end Enclosure

theorem itemPasses {i : Item} (passes : Passes i.value) : Enclosure.list.PassesPart i.text := by
  intro expecting enclosures rest place ends
  rw [Item.text,List.append_assoc,List.append_assoc,tokensGap,
    passes ⟨expecting,_⟩ _ place.symm (gapEnds ends),tokensGap]

theorem memberPasses {m : Member} (key : TextForm m.key) (passes : Passes m.value) :
    Enclosure.object.PassesPart m.text := by
  intro expecting enclosures rest place ends
  have fed (v : Except Flaw (List Char)) (ts : List Token) :
      Passing.feed ⟨expecting,.object :: enclosures⟩ (.text v (.ok ())) ts =
        .ok ⟨.colon,.object :: enclosures⟩ := by
    rcases place with rfl | rfl <;> rfl
  simp only [Member.text,List.append_assoc,List.cons_append]
  rw [tokensGap,tokensText key,skipFeed (fed _ _)]
  calc skipFrom ⟨.colon,.object :: enclosures⟩ (tokens (m.beforeColon.chars ++ ':' ::
          (m.afterColon.chars ++ (m.value ++ (m.after.chars ++ rest)))))
    _ = skipFrom ⟨.value,.object :: enclosures⟩
          (tokens (m.afterColon.chars ++ (m.value ++ (m.after.chars ++ rest)))) := by
        rw [tokensGap,tokensMark rfl,skipFeed rfl]
        rfl
    _ = resume (.afterValue (.object :: enclosures)) (tokens (m.after.chars ++ rest)) := by
        rw [tokensGap]
        exact passes ⟨.value,_⟩ _ (.inl rfl) (gapEnds ends)
    _ = resume (.afterValue (.object :: enclosures)) (tokens rest) := by rw [tokensGap]

theorem listPasses {items : List Item} (each : ∀ i ∈ items, Passes i.value) (last : Gap) :
    Passes (listText items last) := by
  intro p rest expects _
  simp only [listText,List.cons_append,List.append_assoc,List.nil_append]
  rw [tokensMark rfl,skipFeed (feedValue expects (t := .openList) (by simp) rfl)]
  exact Enclosure.list.partsPass (List.forall_mem_map.mpr fun i inside => itemPasses (each i inside))
    p.enclosures last rest

theorem objectPasses {members : List Member} (keys : ∀ m ∈ members, TextForm m.key)
    (each : ∀ m ∈ members, Passes m.value) (last : Gap) : Passes (objectText members last) := by
  intro p rest expects _
  simp only [objectText,List.cons_append,List.append_assoc,List.nil_append]
  rw [tokensMark rfl,skipFeed (feedValue expects (t := .openObject) (by simp) rfl)]
  exact Enclosure.object.partsPass
    (List.forall_mem_map.mpr fun m inside => memberPasses (keys m inside) (each m inside))
    p.enclosures last rest

theorem valuePasses {cs : List Char} (form : ValueForm cs) : Passes cs := by
  induction form with
  | null =>
    intro p rest expects _
    rw [tokensNull]
    exact skipFeed (feedValue expects (by simp) rfl)
  | bool b =>
    intro p rest expects _
    rw [tokensBool]
    exact skipFeed (feedValue expects (by simp) rfl)
  | number form =>
    intro p rest expects ends
    obtain ⟨value,cut⟩ := tokensNumber form ends
    rw [cut]
    exact skipFeed (feedValue expects (by simp) rfl)
  | text form =>
    intro p rest expects _
    rw [List.cons_append,List.append_assoc,List.cons_append,tokensText form]
    exact skipFeed (feedValue expects (by simp) rfl)
  | list _ ih => exact listPasses ih _
  | object keys _ ih => exact objectPasses keys ih _

theorem skipValue {cs rest : List Char} (form : ValueForm cs) (ends : Ends rest) :
    skip (tokens (cs ++ rest)) = .ok (tokens rest) :=
  valuePasses form .start rest (.inl rfl) ends

end GridRobot.Json
