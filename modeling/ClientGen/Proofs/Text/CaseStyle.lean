import ClientGen.Proofs.Text.Words
import Mathlib.Data.List.Basic

namespace ClientGen.Text

variable {f : Char → Char} {cs current word : List Char} {ws : List (List Char)} {a b c : Char}
  {next : Option Char}

def Ascii (cs : List Char) : Prop := ∀ c ∈ cs, isAscii c = true

instance : Decidable (Ascii cs) := decidable_of_iff (cs.all isAscii = true) List.all_eq_true

theorem ascii_forall {P : Char → Prop} (checked : ∀ code < 128, P (Char.ofNat code)) :
    ∀ c, isAscii c = true → P c := by
  intro c ascii
  have here := checked c.toNat (of_decide_eq_true ascii)
  rwa [Char.ofNat_toNat] at here

section Classes

theorem isAlphabetic_of_uppercase :
    ∀ c, isAscii c = true → isUppercase c = true → isAlphabetic c = true := ascii_forall (by decide)

theorem isUppercase_toLower : ∀ c, isAscii c = true → isUppercase c.toLower = false :=
  ascii_forall (by decide)

theorem isUpper_toLower : ∀ c, isAscii c = true → c.toLower.isUpper = false := ascii_forall (by decide)

theorem isLowercase_toUpper : ∀ c, isAscii c = true → isLowercase c.toUpper = false :=
  ascii_forall (by decide)

theorem isAlphanumeric_ascii : ∀ c, isAscii c = true → isAlphanumeric c = c.isAlphanum :=
  ascii_forall (by decide)

theorem startsWord_letter (number : isNumeric a = true) (letter : isAlphabetic b = true)
    (next : Option Char) : startsWord a b next = true := by
  cases upper : isUppercase b <;> simp [startsWord, upper, number, letter]

end Classes

section Recasing

-- Writing all letters in one case. No character changes its class, and no letter becomes another.
structure Recasing (f : Char → Char) : Prop where
  underscore : f '_' = '_'
  ascii : ∀ c, isAscii c = true → isAscii (f c) = true
  alphabetic : ∀ c, isAscii c = true → isAlphabetic (f c) = isAlphabetic c
  numeric : ∀ c, isAscii c = true → isNumeric (f c) = isNumeric c
  sameLetter : ∀ c, isAscii c = true → (f c).toLower = c.toLower
  oneCase : ∀ a b, isAscii a = true → isAscii b = true →
    isLowercase (f a) = true → isUppercase (f b) = false

theorem recasing_toLower : Recasing Char.toLower where
  underscore := rfl
  ascii := ascii_forall (by decide)
  alphabetic := ascii_forall (by decide)
  numeric := ascii_forall (by decide)
  sameLetter := ascii_forall (by decide)
  oneCase _ b _ ascii _ := isUppercase_toLower b ascii

theorem recasing_toUpper : Recasing Char.toUpper where
  underscore := rfl
  ascii := ascii_forall (by decide)
  alphabetic := ascii_forall (by decide)
  numeric := ascii_forall (by decide)
  sameLetter := ascii_forall (by decide)
  oneCase a _ ascii _ small := by
    rw [isLowercase_toUpper a ascii] at small
    cases small

theorem Recasing.ascii_map (recasing : Recasing f) (ascii : Ascii cs) : Ascii (cs.map f) :=
  List.forall_mem_map.mpr fun c member => recasing.ascii c (ascii c member)

-- The only boundary that one case leaves is the letter after a number, which was a boundary before.
theorem Recasing.continues (recasing : Recasing f) (asciiA : isAscii a = true) (asciiB : isAscii b = true)
    (asciiNext : ∀ c ∈ next, isAscii c = true) (continues : startsWord a b next = false) :
    startsWord (f a) (f b) (next.map f) = false := by
  have apart : isNumeric a = true → isAlphabetic b = true → False := by
    intro number letter
    rw [startsWord_letter number letter] at continues
    cases continues
  have letter : isUppercase (f b) = true → isAlphabetic b = true := by
    intro upper
    rw [← recasing.alphabetic b asciiB]
    exact isAlphabetic_of_uppercase _ (recasing.ascii b asciiB) upper
  apply Bool.eq_false_iff.mpr
  intro starts
  rcases startsWord_iff.mp starts with ⟨upper, small | number⟩ | ⟨upper, _, small⟩ | ⟨alphabetic, _, number⟩
  · rw [recasing.oneCase a b asciiA asciiB small] at upper
    cases upper
  · rw [recasing.numeric a asciiA] at number
    exact apart number (letter upper)
  · obtain ⟨c, follows, lower⟩ := (Option.any_eq_true _ _).mp small
    obtain ⟨d, here, rfl⟩ := Option.map_eq_some_iff.mp follows
    rw [recasing.oneCase d b (asciiNext d here) asciiB lower] at upper
    cases upper
  · rw [recasing.numeric a asciiA] at number
    rw [recasing.alphabetic b asciiB] at alphabetic
    exact apart number alphabetic

theorem Recasing.unbroken (recasing : Recasing f) (ascii : Ascii current)
    (asciiNext : ∀ c ∈ next, isAscii c = true) (unbroken : Unbroken next current) :
    Unbroken (next.map f) (current.map f) := by
  induction current generalizing next with
  | nil => trivial
  | cons b before ih =>
    cases before with
    | nil => trivial
    | cons a before =>
      obtain ⟨asciiB, asciiFront⟩ := List.forall_mem_cons.mp ascii
      refine ⟨?_, ih asciiFront (by simpa using asciiB) unbroken.2⟩
      exact recasing.continues (asciiFront a List.mem_cons_self) asciiB asciiNext unbroken.1

theorem Recasing.isWord (recasing : Recasing f) (ascii : Ascii word) (isWord : IsWord word) :
    IsWord (word.map f) where
  filled := by simpa using isWord.filled
  alphanumeric := by
    rw [List.forall_mem_map]
    intro c member
    have same : isAlphanumeric (f c) = isAlphanumeric c := by
      rw [isAlphanumeric, recasing.alphabetic c (ascii c member), recasing.numeric c (ascii c member)]
      rfl
    rw [same]
    exact isWord.alphanumeric c member
  unbroken := by
    rw [← List.map_reverse]
    have ascii : Ascii word.reverse := fun c member => ascii c (List.mem_reverse.mp member)
    exact recasing.unbroken ascii (by simp) isWord.unbroken

theorem Recasing.map_joined (recasing : Recasing f) (ws : List (List Char)) :
    (['_'].intercalate ws).map f = ['_'].intercalate (ws.map (List.map f)) := by
  induction ws with
  | nil => rfl
  | cons word later ih =>
    cases later with
    | nil => simp
    | cons second later =>
      simp only [List.intercalate_cons_cons, List.map_append, List.map_cons, List.map_nil,
        recasing.underscore] at ih ⊢
      rw [ih]

theorem Recasing.words_joined (recasing : Recasing f) (ascii : ∀ word ∈ ws, Ascii word)
    (areWords : ∀ word ∈ ws, IsWord word) :
    words ((['_'].intercalate ws).map f) = ws.map (List.map f) := by
  rw [recasing.map_joined, words_intercalate]
  rw [List.forall_mem_map]
  exact fun word member => recasing.isWord (ascii word member) (areWords word member)

end Recasing

section Case

def upper (cs : List Char) : List Char := cs.flatMap upperChar

theorem lowerFrom_ascii (ascii : Ascii cs) (before : List Char) : lowerFrom before cs = cs.map Char.toLower := by
  induction cs generalizing before with
  | nil => rfl
  | cons c rest ih =>
    obtain ⟨here, later⟩ := List.forall_mem_cons.mp ascii
    have plain : (c == 'Σ') = false := by
      apply Bool.eq_false_iff.mpr
      intro sigma
      rw [eq_of_beq sigma] at here
      exact absurd here (by decide)
    simp [lowerFrom, plain, lowerChar, here, ih later]

theorem lower_ascii (ascii : Ascii cs) : lower cs = cs.map Char.toLower := lowerFrom_ascii ascii []

theorem upper_ascii (ascii : Ascii cs) : upper cs = cs.map Char.toUpper := by
  induction cs with
  | nil => rfl
  | cons c rest ih =>
    obtain ⟨here, later⟩ := List.forall_mem_cons.mp ascii
    have first : upperChar c = [c.toUpper] := if_pos here
    rw [upper, List.flatMap_cons, first, ← upper, ih later]
    rfl

theorem Recasing.lower_map (recasing : Recasing f) (ascii : Ascii word) :
    lower (word.map f) = lower word := by
  rw [lower_ascii (recasing.ascii_map ascii), lower_ascii ascii, List.map_map]
  exact List.map_congr_left fun c member => recasing.sameLetter c (ascii c member)

theorem Recasing.joinCamel_map (recasing : Recasing f) (ascii : ∀ word ∈ ws, Ascii word) :
    joinCamel (ws.map (List.map f)) = joinCamel ws := by
  cases ws with
  | nil => rfl
  | cons first later =>
    obtain ⟨here, others⟩ := List.forall_mem_cons.mp ascii
    rw [List.map_cons, joinCamel, joinCamel, recasing.lower_map here, List.flatMap_map]
    congr 1
    exact List.flatMap_congr fun word member => by rw [recasing.lower_map (others word member)]

theorem toLower_lower (ascii : Ascii word) : (lower word).map Char.toLower = word.map Char.toLower := by
  rw [lower_ascii ascii, List.map_map]
  exact List.map_congr_left fun c member => recasing_toLower.sameLetter c (ascii c member)

theorem toLower_capitalize (ascii : Ascii word) :
    (capitalize word).map Char.toLower = word.map Char.toLower := by
  cases word with
  | nil => rfl
  | cons c rest =>
    have here := ascii c List.mem_cons_self
    have first : upperChar c = [c.toUpper] := if_pos here
    rw [capitalize, first, List.singleton_append, List.map_cons, List.map_cons, recasing_toUpper.sameLetter c here]

theorem toLower_joinCamel (ascii : ∀ word ∈ ws, Ascii word) :
    (joinCamel ws).map Char.toLower = ws.flatten.map Char.toLower := by
  cases ws with
  | nil => rfl
  | cons first later =>
    obtain ⟨here, others⟩ := List.forall_mem_cons.mp ascii
    rw [joinCamel, List.map_append, toLower_lower here, List.flatten_cons, List.map_append,
      List.map_flatMap, List.map_flatten, ← List.flatMap_def]
    congr 1
    apply List.flatMap_congr
    intro word member
    have here := others word member
    rw [toLower_capitalize (lower_ascii here ▸ recasing_toLower.ascii_map here), toLower_lower here]

theorem isUpper_head_joinCamel (ascii : ∀ word ∈ ws, Ascii word) (areWords : ∀ word ∈ ws, IsWord word) :
    ∀ c ∈ (joinCamel ws).head?, c.isUpper = false := by
  cases ws with
  | nil => simp [joinCamel]
  | cons first later =>
    have here := ascii first List.mem_cons_self
    cases first with
    | nil => exact absurd rfl (areWords _ List.mem_cons_self).filled
    | cons c rest =>
      have small : c.toLower.isUpper = false := isUpper_toLower c (here c List.mem_cons_self)
      rw [joinCamel, lower_ascii here, List.map_cons, List.cons_append, List.head?_cons]
      intro d head
      rw [← Option.mem_some_iff.mp head]
      exact small

end Case

theorem isAlphanum_toLower (c : Char) : c.toLower.isAlphanum = c.isAlphanum := by
  by_cases ascii : isAscii c = true
  · exact ascii_forall (P := fun c => c.toLower.isAlphanum = c.isAlphanum) (by decide) c ascii
  · have large : ¬ c.toNat < 128 := fun small => ascii (decide_eq_true small)
    have same : c.toLower = c := by
      refine dif_neg ?_
      rintro ⟨_, last⟩
      have bound : c.toNat ≤ 90 := UInt32.le_iff_toNat_le.mp last
      omega
    rw [same]

theorem ascii_words (ascii : Ascii cs) : ∀ word ∈ words cs, Ascii word := by
  intro word member c within
  have counted : c ∈ (words cs).flatten := List.mem_flatten_of_mem member within
  rw [flatten_words] at counted
  exact ascii c (List.mem_filter.mp counted).1

theorem ascii_joined (ascii : ∀ word ∈ ws, Ascii word) : Ascii (['_'].intercalate ws) := by
  induction ws with
  | nil => exact fun c member => absurd member List.not_mem_nil
  | cons word later ih =>
    obtain ⟨here, others⟩ := List.forall_mem_cons.mp ascii
    cases later with
    | nil => rwa [List.intercalate_singleton]
    | cons second later =>
      rw [List.intercalate_cons_cons, Ascii, List.forall_mem_append, List.forall_mem_append,
        List.forall_mem_singleton]
      exact ⟨⟨here, by decide⟩, ih others⟩

theorem camelCase_recased (recasing : Recasing f) {s : String} (ascii : Ascii s.toList) :
    camelCase (String.ofList (("_".intercalate (wordsOf s)).toList.map f)) = camelCase s := by
  rw [camelCase, String.toList_ofList, toList_joined,
    recasing.words_joined (ascii_words ascii) (fun _ => isWord_of_mem),
    recasing.joinCamel_map (ascii_words ascii), ← camelCase]

theorem camelCase_any_style {s : String} (ascii : Ascii s.toList) :
    camelCase ("_".intercalate (wordsOf s)) = camelCase s ∧
    camelCase (String.ofList (lower ("_".intercalate (wordsOf s)).toList)) = camelCase s ∧
    camelCase (String.ofList (upper ("_".intercalate (wordsOf s)).toList)) = camelCase s ∧
    (∀ c ∈ (camelCase s).toList, c.isAlphanum = true) ∧
    (camelCase s).toList.map Char.toLower = (s.toList.filter Char.isAlphanum).map Char.toLower ∧
    ∀ c ∈ (camelCase s).toList.head?, c.isUpper = false := by
  have asciiWords := ascii_words ascii
  have joined : Ascii ("_".intercalate (wordsOf s)).toList := by
    rw [toList_joined]
    exact ascii_joined asciiWords
  have letters : (camelCase s).toList.map Char.toLower =
      (s.toList.filter Char.isAlphanum).map Char.toLower := by
    rw [camelCase, String.toList_ofList, toLower_joinCamel asciiWords, flatten_words]
    exact congrArg _ (List.filter_congr fun c member => isAlphanumeric_ascii c (ascii c member))
  refine ⟨?_, ?_, ?_, ?_, letters, ?_⟩
  · rw [camelCase, toList_joined, words_intercalate fun _ => isWord_of_mem, ← camelCase]
  · rw [lower_ascii joined, camelCase_recased recasing_toLower ascii]
  · rw [upper_ascii joined, camelCase_recased recasing_toUpper ascii]
  · intro c member
    have small : c.toLower ∈ (s.toList.filter Char.isAlphanum).map Char.toLower := by
      rw [← letters]
      exact List.mem_map_of_mem member
    obtain ⟨d, kept, same⟩ := List.mem_map.mp small
    rw [← isAlphanum_toLower, ← same, isAlphanum_toLower]
    exact (List.mem_filter.mp kept).2
  · rw [camelCase, String.toList_ofList]
    exact isUpper_head_joinCamel asciiWords fun _ => isWord_of_mem

theorem camelCase_any_style_mixed :
    Ascii "v2users_XMLHttp-9Zo".toList ∧
    camelCase "v2users_XMLHttp-9Zo" = "v2UsersXmlHttp9Zo" ∧
    camelCase "v2_users_XML_Http_9_Zo" = camelCase "v2users_XMLHttp-9Zo" ∧
    camelCase "v2_users_xml_http_9_zo" = camelCase "v2users_XMLHttp-9Zo" ∧
    camelCase "V2_USERS_XML_HTTP_9_ZO" = camelCase "v2users_XMLHttp-9Zo" := by
  have ascii : Ascii "v2users_XMLHttp-9Zo".toList := by decide +kernel
  have joined : "_".intercalate (wordsOf "v2users_XMLHttp-9Zo") = "v2_users_XML_Http_9_Zo" := by
    decide +kernel
  have small : String.ofList (lower "v2_users_XML_Http_9_Zo".toList) = "v2_users_xml_http_9_zo" := by
    decide +kernel
  have capital : String.ofList (upper "v2_users_XML_Http_9_Zo".toList) = "V2_USERS_XML_HTTP_9_ZO" := by
    decide +kernel
  obtain ⟨plain, snake, screaming, _⟩ := camelCase_any_style ascii
  rw [joined] at plain snake screaming
  rw [small] at snake
  rw [capital] at screaming
  exact ⟨ascii, by decide +kernel, plain, snake, screaming⟩

end ClientGen.Text
