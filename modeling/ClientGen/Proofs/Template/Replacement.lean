import ClientGen.Template.Render
import Mathlib.Data.List.Basic

namespace ClientGen.Template

def placeholder (name : List Char) : List Char := '{' :: name ++ ['}']

def interpolation (identifier : List Char) : List Char := '$' :: placeholder identifier

def Braceless (name : List Char) : Prop := '{' ∉ name ∧ '}' ∉ name

instance (name : List Char) : Decidable (Braceless name) := inferInstanceAs (Decidable (_ ∧ _))

-- Names with the texts that take the place of their placeholders.
abbrev Images := List (List Char × List Char)

def imageAt? (images : Images) (cs : List Char) : Option (List Char × List Char) :=
  images.find? fun entry => (placeholder entry.1).isPrefixOf cs

-- Fills in all placeholders in one pass. What has been filled in is not looked at again.
def substitute (images : Images) (cs : List Char) : List Char :=
  match cs with
  | [] => []
  | c :: rest =>
    match imageAt? images (c :: rest) with
    | some (name, image) => image ++ substitute images (rest.drop (name.length + 1))
    | none => c :: substitute images rest
termination_by cs.length

-- What takes the place of a placeholder, which stays if its name has no image.
def imageOf (images : Images) (name : List Char) : List Char :=
  (images.lookup name).getD (placeholder name)

variable {images : Images} {name other rest image : List Char} {c : Char}

theorem imageOf_nil : imageOf [] name = placeholder name := rfl

theorem imageOf_self : imageOf ((name, image) :: images) name = image := by
  rw [imageOf, List.lookup_cons_self, Option.getD_some]

theorem imageOf_skip (different : other ≠ name) :
    imageOf ((name, image) :: images) other = imageOf images other := by
  rw [imageOf, List.lookup_cons, beq_false_of_ne different, imageOf]

theorem imageAt?_eq_none {cs : List Char} :
    imageAt? images cs = none ↔ ∀ entry ∈ images, ¬ placeholder entry.1 <+: cs := by
  simp only [imageAt?, List.find?_eq_none, List.isPrefixOf_iff_prefix]

theorem imageAt?_none_iff {cs : List Char} :
    imageAt? images cs = none ↔ ∀ name ∈ images.map Prod.fst, ¬ placeholder name <+: cs := by
  rw [imageAt?_eq_none, List.forall_mem_map]

theorem closed_prefix (plain : '}' ∉ name) (otherPlain : '}' ∉ other) (rest : List Char) :
    name ++ ['}'] <+: other ++ '}' :: rest ↔ name = other := by
  induction name generalizing other with
  | nil => cases other <;> simp_all
  | cons c name ih =>
    cases other with
    | nil =>
      simp only [List.mem_cons, not_or] at plain
      simp [Ne.symm plain.1]
    | cons d other =>
      simp only [List.mem_cons, not_or] at plain otherPlain
      simp only [List.cons_append, List.cons_prefix_cons, ih plain.2 otherPlain.2, List.cons.injEq]

theorem placeholder_prefix (plain : Braceless name) (otherPlain : Braceless other) (rest : List Char) :
    placeholder name <+: placeholder other ++ rest ↔ name = other := by
  have closed := closed_prefix plain.2 otherPlain.2 rest
  simpa only [placeholder, List.cons_append, List.cons_prefix_cons, true_and, List.append_assoc,
    List.nil_append] using closed

theorem imageAt?_placeholder (plain : ∀ entry ∈ images, Braceless entry.1)
    (otherPlain : Braceless other) (rest : List Char) :
    imageAt? images (placeholder other ++ rest) = (images.lookup other).map (other, ·) := by
  induction images with
  | nil => rfl
  | cons entry later ih =>
    obtain ⟨name, image⟩ := entry
    have hit : (placeholder name).isPrefixOf (placeholder other ++ rest) = (other == name) := by
      rw [Bool.eq_iff_iff, List.isPrefixOf_iff_prefix, beq_iff_eq, eq_comm,
        placeholder_prefix (plain _ List.mem_cons_self) otherPlain]
    have tail := ih fun entry member => plain entry (List.mem_cons_of_mem _ member)
    simp only [imageAt?] at tail
    simp only [imageAt?, List.find?_cons, List.lookup_cons, hit, tail]
    cases same : other == name with
    | true =>
      rw [beq_iff_eq.mp same]
      rfl
    | false => rfl

theorem imageAt?_some {entry : List Char × List Char} {cs : List Char}
    (found : imageAt? images cs = some entry) :
    entry ∈ images ∧ ∃ tail, cs = placeholder entry.1 ++ tail := by
  have starts := List.find?_some found
  obtain ⟨tail, same⟩ := List.isPrefixOf_iff_prefix.mp starts
  exact ⟨List.mem_of_find?_eq_some found, tail, same.symm⟩

-- Read from the front, a text is empty, starts with a placeholder that has an image, or starts with a
-- character where there is none.
theorem holes_induction (images : Images) {motive : List Char → Prop} (nil : motive [])
    (hole : ∀ name ∈ images.map Prod.fst, ∀ rest, motive rest → motive (placeholder name ++ rest))
    (copied : ∀ c rest, imageAt? images (c :: rest) = none → motive rest → motive (c :: rest))
    (cs : List Char) : motive cs := by
  match cs with
  | [] => exact nil
  | c :: rest =>
    cases found : imageAt? images (c :: rest) with
    | none => exact copied c rest found (holes_induction images nil hole copied rest)
    | some entry =>
      obtain ⟨member, tail, same⟩ := imageAt?_some found
      have shorter : tail.length < (c :: rest).length := by
        rw [same]
        simp only [placeholder, List.length_append, List.length_cons]
        omega
      rw [same]
      exact hole _ (List.mem_map_of_mem member) tail (holes_induction images nil hole copied tail)
termination_by cs.length
decreasing_by
  · exact Nat.lt_succ_self _
  · exact shorter

theorem imageAt?_other (free : c ≠ '{') : imageAt? images (c :: rest) = none := by
  simp [imageAt?, placeholder, free.symm]

theorem substitute_nil : substitute images [] = [] := by rw [substitute]

theorem substitute_copied (free : imageAt? images (c :: rest) = none) :
    substitute images (c :: rest) = c :: substitute images rest := by
  rw [substitute, free]

theorem substitute_append (free : '{' ∉ other) :
    substitute images (other ++ rest) = other ++ substitute images rest := by
  induction other with
  | nil => rfl
  | cons c other ih =>
    rw [List.mem_cons, not_or] at free
    rw [List.cons_append, substitute_copied (imageAt?_other (Ne.symm free.1)), ih free.2,
      List.cons_append]

theorem substitute_placeholder (plain : ∀ entry ∈ images, Braceless entry.1)
    (otherPlain : Braceless other) :
    substitute images (placeholder other ++ rest) = imageOf images other ++ substitute images rest := by
  have found := imageAt?_placeholder plain otherPlain rest
  have start : placeholder other ++ rest = '{' :: (other ++ ['}'] ++ rest) := rfl
  have after : (other ++ ['}'] ++ rest).drop (other.length + 1) = rest := by simp
  rw [start] at found ⊢
  cases image : images.lookup other with
  | some image =>
    rw [image, Option.map_some] at found
    rw [substitute, found, imageOf, image]
    simp only [after, Option.getD_some]
  | none =>
    rw [image, Option.map_none] at found
    have copied : '{' ∉ other ++ ['}'] := by simp [otherPlain.1]
    rw [substitute_copied found, substitute_append copied, imageOf, image]
    rfl

section Texts

theorem replaceFrom_placeholder {fuel : Nat} {cs : List Char} (enough : cs.length ≤ fuel) :
    replaceFrom (placeholder name) image fuel cs = substitute [(name, image)] cs := by
  induction fuel generalizing cs with
  | zero =>
    cases cs with
    | nil => rw [replaceFrom, substitute_nil]
    | cons c rest => cases enough
  | succ fuel ih =>
    cases cs with
    | nil => simp only [replaceFrom, substitute_nil]
    | cons c rest =>
      have lengths : (c :: rest).drop (placeholder name).length = rest.drop (name.length + 1) := by
        simp [placeholder]
      have first : imageAt? [(name, image)] (c :: rest) =
          if (placeholder name).isPrefixOf (c :: rest) then some (name, image) else none := by
        simp only [imageAt?, List.find?_cons, List.find?_nil]
        cases (placeholder name).isPrefixOf (c :: rest) <;> rfl
      rw [List.length_cons] at enough
      rw [replaceFrom, lengths, substitute, first]
      by_cases starts : (placeholder name).isPrefixOf (c :: rest)
      · rw [if_pos starts, if_pos starts, ih]
        rw [List.length_drop]
        omega
      · rw [if_neg starts, if_neg starts, ih (by omega)]

theorem replaceAll_placeholder (s name image : String) :
    (replaceAll s (.join ["\x7b", name, "\x7d"]) image).toList =
      substitute [(name.toList, image.toList)] s.toList := by
  have part : (String.join ["\x7b", name, "\x7d"]).toList = placeholder name.toList := by
    simp [placeholder]
  have written : String.join ["\x7b", name, "\x7d"] ≠ "" := by
    intro empty
    simp [empty, placeholder] at part
  rw [replaceAll, if_neg written, String.toList_ofList, part, replaceFrom_placeholder (Nat.le_refl _)]

end Texts

section Fusion

theorem substitute_single (name identifier : List Char) (c : Char) (rest : List Char) :
    substitute [(name, interpolation identifier)] (c :: rest) =
      c :: substitute [(name, interpolation identifier)] rest ∨
    ∃ tail, substitute [(name, interpolation identifier)] (c :: rest) = '$' :: '{' :: tail := by
  cases found : imageAt? [(name, interpolation identifier)] (c :: rest) with
  | none => exact .inl (substitute_copied found)
  | some entry =>
    obtain rfl := List.mem_singleton.mp (imageAt?_some found).1
    right
    rw [substitute, found]
    exact ⟨_, rfl⟩

-- No name ends inside what has been filled in, unless it holds a brace. So where it ends, it ended
-- before.
theorem closed_of_filled {cs identifier : List Char} (free : '{' ∉ other)
    (closed : other ++ ['}'] <+: substitute [(name, interpolation identifier)] cs) :
    other ++ ['}'] <+: cs := by
  induction other generalizing cs with
  | nil =>
    cases cs with
    | nil => simp [substitute_nil] at closed
    | cons c rest =>
      obtain copied | ⟨tail, filled⟩ := substitute_single name identifier c rest
      · rw [copied] at closed
        simpa using closed
      · simp [filled] at closed
  | cons d other ih =>
    rw [List.mem_cons, not_or] at free
    cases cs with
    | nil => simp [substitute_nil] at closed
    | cons c rest =>
      obtain copied | ⟨tail, filled⟩ := substitute_single name identifier c rest
      · rw [copied, List.cons_append, List.cons_prefix_cons] at closed
        exact List.cons_prefix_cons.mpr ⟨closed.1, ih free.2 closed.2⟩
      · rw [filled, List.cons_append, List.cons_prefix_cons] at closed
        cases other with
        | nil => simp at closed
        | cons e other => simp_all

theorem substitute_fused (plain : ∀ entry ∈ images, Braceless entry.1) (namePlain : Braceless name)
    (otherPlain : Braceless other) (cs : List Char) :
    substitute images (substitute [(name, interpolation other)] cs) =
      substitute ((name, '$' :: imageOf images other) :: images) cs := by
  have single : ∀ entry ∈ [(name, interpolation other)], Braceless entry.1 := by simp [namePlain]
  have fusedPlain : ∀ entry ∈ (name, '$' :: imageOf images other) :: images, Braceless entry.1 := by
    simpa [namePlain] using plain
  induction cs using holes_induction ((name, '$' :: imageOf images other) :: images) with
  | nil => simp only [substitute_nil]
  | hole hole member rest ih =>
    have holePlain : Braceless hole := by
      obtain ⟨entry, listed, rfl⟩ := List.mem_map.mp member
      exact fusedPlain entry listed
    rw [substitute_placeholder single holePlain, substitute_placeholder fusedPlain holePlain, ← ih]
    -- What has been put in for this name is a hole again, and is filled in with the others.
    by_cases same : hole = name
    · subst same
      rw [imageOf_self, imageOf_self, interpolation, List.cons_append,
        substitute_copied (imageAt?_other (by decide)), substitute_placeholder plain otherPlain]
      rfl
    · rw [imageOf_skip same, imageOf_skip same, imageOf_nil, substitute_placeholder plain holePlain]
  | copied c rest free ih =>
    rw [imageAt?_eq_none, List.forall_mem_cons] at free
    have passed : imageAt? [(name, interpolation other)] (c :: rest) = none := by
      rw [imageAt?_eq_none, List.forall_mem_singleton]
      exact free.1
    -- A hole that the first filling would close was one before.
    have passedLater : imageAt? images (c :: substitute [(name, interpolation other)] rest) = none := by
      rw [imageAt?_eq_none]
      intro entry member starts
      obtain ⟨rfl, closed⟩ := List.cons_prefix_cons.mp starts
      exact free.2 entry member
        (List.cons_prefix_cons.mpr ⟨rfl, closed_of_filled (plain entry member).1 closed⟩)
    have passedFused : imageAt? ((name, '$' :: imageOf images other) :: images) (c :: rest) = none := by
      rw [imageAt?_eq_none, List.forall_mem_cons]
      exact free
    rw [substitute_copied passed, substitute_copied passedLater, substitute_copied passedFused, ih]

end Fusion

section Comparison

variable {others : Images} {cs : List Char}

theorem infix_after (free : '{' ∉ other) : placeholder name <:+: other ++ rest ↔ placeholder name <:+: rest := by
  induction other with
  | nil => rfl
  | cons c other ih =>
    rw [List.mem_cons, not_or] at free
    rw [List.cons_append, List.infix_cons_iff, ih free.2, or_iff_right]
    intro starts
    exact free.1 (List.cons_prefix_cons.mp starts).1

theorem infix_placeholder (plain : Braceless name) (otherPlain : Braceless other) :
    placeholder name <:+: placeholder other ++ rest ↔ name = other ∨ placeholder name <:+: rest := by
  have after : '{' ∉ other ++ ['}'] := by simp [otherPlain.1]
  have start : placeholder other ++ rest = '{' :: (other ++ ['}'] ++ rest) := rfl
  have starts := placeholder_prefix plain otherPlain rest
  rw [start] at starts ⊢
  rw [List.infix_cons_iff, starts, infix_after after]

-- Two ways of filling in the same names differ on a text as soon as they differ on a name that it holds,
-- provided that no two different images of a name begin alike.
theorem substitute_congr_iff (plain : ∀ entry ∈ images, Braceless entry.1)
    (names : others.map Prod.fst = images.map Prod.fst)
    (apart : ∀ name ∈ images.map Prod.fst, ∀ s t, imageOf images name ++ s = imageOf others name ++ t →
      imageOf images name = imageOf others name) :
    substitute images cs = substitute others cs ↔
      ∀ name ∈ images.map Prod.fst, placeholder name <:+: cs → imageOf images name = imageOf others name := by
  have namePlain : ∀ name ∈ images.map Prod.fst, Braceless name := by
    intro name member
    obtain ⟨entry, listed, rfl⟩ := List.mem_map.mp member
    exact plain entry listed
  have othersPlain : ∀ entry ∈ others, Braceless entry.1 := fun entry member =>
    namePlain _ (names ▸ List.mem_map_of_mem member)
  induction cs using holes_induction images with
  | nil => simp [substitute_nil, placeholder]
  | hole hole member rest ih =>
    have holePlain := namePlain hole member
    rw [substitute_placeholder plain holePlain, substitute_placeholder othersPlain holePlain]
    constructor
    · intro same name listed occurs
      have here := apart hole member _ _ same
      rw [here, List.append_cancel_left_eq] at same
      obtain rfl | later := (infix_placeholder (namePlain name listed) holePlain).mp occurs
      · exact here
      · exact ih.mp same name listed later
    · intro agree
      have here := agree hole member (List.infix_append_left)
      rw [here, ih.mpr fun name listed later => agree name listed
        ((infix_placeholder (namePlain name listed) holePlain).mpr (.inr later))]
  | copied c rest free ih =>
    have absent := imageAt?_none_iff.mp free
    have passed : imageAt? others (c :: rest) = none := imageAt?_none_iff.mpr (names ▸ absent)
    rw [substitute_copied free, substitute_copied passed, List.cons_inj_right]
    refine ih.trans (forall₂_congr fun name listed => ?_)
    rw [List.infix_cons_iff, or_iff_right (absent name listed)]

end Comparison

section Turns

def interpolated (fills : List (List Char × List Char)) : Images :=
  fills.map fun fill => (fill.1, interpolation fill.2)

-- What the names become if one is filled in after another: an identifier that is spelled like a later
-- name becomes what this name becomes.
def chained : List (List Char × List Char) → Images
  | [] => []
  | (name, identifier) :: later => (name, '$' :: imageOf (chained later) identifier) :: chained later

variable {fills : List (List Char × List Char)} {cs : List Char}

theorem chained_names (fills : List (List Char × List Char)) :
    (chained fills).map Prod.fst = fills.map Prod.fst := by
  induction fills with
  | nil => rfl
  | cons fill later ih => rw [chained, List.map_cons, ih, List.map_cons]

theorem chained_plain (plain : ∀ fill ∈ fills, Braceless fill.1) :
    ∀ entry ∈ chained fills, Braceless entry.1 := by
  intro entry member
  have listed : entry.1 ∈ (chained fills).map Prod.fst := List.mem_map_of_mem member
  rw [chained_names] at listed
  obtain ⟨fill, listed, same⟩ := List.mem_map.mp listed
  exact same ▸ plain fill listed

theorem substitute_nothing (cs : List Char) : substitute [] cs = cs := by
  induction cs with
  | nil => exact substitute_nil
  | cons c rest ih => rw [substitute_copied rfl, ih]

theorem foldl_substitute (plain : ∀ fill ∈ fills, Braceless fill.1 ∧ Braceless fill.2) (cs : List Char) :
    fills.foldl (fun cs fill => substitute [(fill.1, interpolation fill.2)] cs) cs =
      substitute (chained fills) cs := by
  induction fills generalizing cs with
  | nil => exact (substitute_nothing cs).symm
  | cons fill later ih =>
    obtain ⟨fillPlain, laterPlain⟩ := List.forall_mem_cons.mp plain
    have chainedPlain := chained_plain fun fill member => (laterPlain fill member).1
    rw [List.foldl_cons, ih laterPlain, substitute_fused chainedPlain fillPlain.1 fillPlain.2, chained]

theorem imageOf_chained (fills : List (List Char × List Char)) (identifier : List Char) :
    imageOf (chained fills) identifier = placeholder identifier ∧ identifier ∉ fills.map Prod.fst ∨
    (∃ tail, imageOf (chained fills) identifier = '$' :: tail) ∧ identifier ∈ fills.map Prod.fst := by
  induction fills with
  | nil => exact .inl ⟨rfl, List.not_mem_nil⟩
  | cons fill later ih =>
    by_cases same : identifier = fill.1
    · subst same
      exact .inr ⟨⟨_, imageOf_self⟩, List.mem_cons_self⟩
    · rw [chained, imageOf_skip same, List.map_cons, List.mem_cons, or_iff_right same]
      exact ih

theorem chained_image_iff (later : List (List Char × List Char)) (identifier : List Char) :
    '$' :: imageOf (chained later) identifier = interpolation identifier ↔
      identifier ∉ later.map Prod.fst := by
  obtain ⟨kept, free⟩ | ⟨⟨tail, filled⟩, named⟩ := imageOf_chained later identifier
  · simp only [kept, free, interpolation, not_false_eq_true]
  · simp [filled, named, interpolation, placeholder]

theorem chained_images (distinct : (fills.map Prod.fst).Nodup) :
    (∀ name ∈ fills.map Prod.fst, placeholder name <:+: cs →
      imageOf (chained fills) name = imageOf (interpolated fills) name) ↔
    fills.Pairwise fun p q => placeholder p.1 <:+: cs → p.2 ≠ q.1 := by
  induction fills with
  | nil => simp
  | cons fill later ih =>
    obtain ⟨name, identifier⟩ := fill
    rw [List.map_cons, List.nodup_cons] at distinct
    have tail : ∀ other ∈ later.map Prod.fst,
        imageOf (chained ((name, identifier) :: later)) other = imageOf (chained later) other ∧
        imageOf (interpolated ((name, identifier) :: later)) other =
          imageOf (interpolated later) other := by
      intro other member
      have different : other ≠ name := fun same => distinct.1 (same ▸ member)
      exact ⟨imageOf_skip different, imageOf_skip different⟩
    have head : imageOf (chained ((name, identifier) :: later)) name =
        imageOf (interpolated ((name, identifier) :: later)) name ↔
        identifier ∉ later.map Prod.fst := by
      rw [← chained_image_iff]
      simp only [chained, interpolated, List.map_cons, imageOf_self]
    have unnamed : identifier ∉ later.map Prod.fst ↔ ∀ q ∈ later, identifier ≠ q.1 := by
      rw [List.mem_map, not_exists]
      exact forall_congr' fun q => by rw [not_and, eq_comm]
    rw [List.map_cons, List.forall_mem_cons, List.pairwise_cons, head, unnamed, ← ih distinct.2]
    refine and_congr ⟨fun apart q member occurs => apart occurs q member,
      fun apart occurs q member => apart q member occurs⟩ (forall₂_congr fun other member => ?_)
    rw [(tail other member).1, (tail other member).2]

theorem chained_image (fills : List (List Char × List Char)) (name : List Char)
    (named : name ∈ fills.map Prod.fst) : ∃ later identifier,
      imageOf (chained fills) name = '$' :: imageOf (chained later) identifier ∧
      imageOf (interpolated fills) name = interpolation identifier := by
  induction fills with
  | nil => cases named
  | cons fill later ih =>
    by_cases same : name = fill.1
    · subst same
      exact ⟨later, fill.2, imageOf_self, imageOf_self⟩
    · obtain ⟨rest, identifier, images⟩ := ih ((List.mem_cons.mp named).resolve_left same)
      refine ⟨rest, identifier, ?_⟩
      rwa [chained, imageOf_skip same, interpolated, List.map_cons, imageOf_skip same]

-- Filling in one name after another and all at once agree on a text just where no name that the text
-- holds gets the identifier that a later name is spelled like.
theorem substitute_chained_iff (plain : ∀ fill ∈ fills, Braceless fill.1)
    (distinct : (fills.map Prod.fst).Nodup) :
    substitute (chained fills) cs = substitute (interpolated fills) cs ↔
      fills.Pairwise fun p q => placeholder p.1 <:+: cs → p.2 ≠ q.1 := by
  have names : (interpolated fills).map Prod.fst = (chained fills).map Prod.fst := by
    rw [chained_names, interpolated, List.map_map]
    rfl
  rw [substitute_congr_iff (chained_plain plain) names, chained_names, chained_images distinct]
  intro name named s t same
  rw [chained_names] at named
  obtain ⟨later, identifier, first, second⟩ := chained_image fills name named
  rw [first, second]
  obtain ⟨kept, -⟩ | ⟨⟨tail, filled⟩, -⟩ := imageOf_chained later identifier
  · rw [kept, interpolation]
  · rw [first, second, filled] at same
    simp [interpolation, placeholder] at same

end Turns

end ClientGen.Template
