import IdentityClaims.Proofs.Admission
import Mathlib.Data.List.TakeWhile

/-!
# Which types are taken for the type of contexts

The check (`is_context_type`) works on the spelling of a type, from which the white space is gone:
it asks for the names at the two angle brackets and for the text behind them, and of what stands in
front of the names it sees no more than that it ends in a path separator. So it takes every path
that is meant, and on types of two nested paths nothing else; but it also takes references, function
pointers and lists of arguments in which such a path comes last.
-/

namespace IdentityClaims.Text

/-! ## Characters of words -/

/-- The characters of identifiers. -/
def isWordChar (c : Char) : Bool :=
  isIdentifierStart c || isIdentifierPart c

/-- The code points of the white space characters. -/
def whitespaceCodes : List Nat :=
  [0x9, 0xA, 0xB, 0xC, 0xD, 0x20, 0x85, 0xA0, 0x1680, 0x2000, 0x2001, 0x2002, 0x2003, 0x2004,
   0x2005, 0x2006, 0x2007, 0x2008, 0x2009, 0x200A, 0x2028, 0x2029, 0x202F, 0x205F, 0x3000]

theorem mem_whitespaceCodes {c : Char} (blank : isWhitespace c) : c.toNat ∈ whitespaceCodes := by
  simp only [isWhitespace, whitespaceBounds, inSpans_cons_cons_iff, inSpans_nil,
    Bool.false_eq_true, or_false] at blank
  simp only [whitespaceCodes, List.mem_cons, List.not_mem_nil, or_false]
  omega

theorem whitespaceCodes_outside :
    ∀ code ∈ whitespaceCodes, code ≠ '_'.toNat ∧ inSpans identifierStartBounds code = false ∧
      inSpans identifierRestBounds code = false := by
  decide +kernel

theorem not_isWhitespace_of_isWordChar {c : Char} (word : isWordChar c) : ¬ isWhitespace c := by
  intro blank
  obtain ⟨other, start, rest⟩ := whitespaceCodes_outside _ (mem_whitespaceCodes blank)
  have underscore : c ≠ '_' := fun same => other (by rw [same])
  simp [isWordChar, isIdentifierStart, isIdentifierPart, start, rest, underscore] at word

end IdentityClaims.Text

namespace IdentityClaims.ErrorEnum

open Text

/-! ## Splitting a spelling -/

/-- A text that is empty or ends in a path separator. -/
def EndsPath (cs : List Char) : Prop :=
  cs = [] ∨ ∃ before, cs = before ++ [':', ':']

theorem withoutEnd?_eq_some_iff {ending cs rest : List Char} :
    withoutEnd? ending cs = some rest ↔ cs = rest ++ ending := by
  unfold withoutEnd?
  constructor
  · intro taken
    split at taken
    · next ends =>
      obtain ⟨before, rfl⟩ := List.isSuffixOf_iff_suffix.mp ends
      simp only [List.length_append, Nat.add_sub_cancel, List.take_left', Option.some.injEq]
        at taken
      rw [taken]
    · cases taken
  · rintro rfl
    rw [if_pos (List.isSuffixOf_iff_suffix.mpr (List.suffix_append rest ending))]
    simp

theorem splitAtAngle?_append {before : List Char} (none_before : '<' ∉ before)
    (after : List Char) : splitAtAngle? (before ++ '<' :: after) = some (before, after) := by
  induction before with
  | nil => rfl
  | cons c rest ih =>
    obtain ⟨other, later⟩ := not_or.mp (mt List.mem_cons.mpr none_before)
    rw [List.cons_append, splitAtAngle?, ih later, Option.map_some]
    exact fun same => other same.symm

/-- The first angle bracket is the one that none stands in front of. -/
theorem splitAtAngle?_eq_some_iff {cs before after : List Char} :
    splitAtAngle? cs = some (before, after) ↔ cs = before ++ '<' :: after ∧ '<' ∉ before := by
  constructor
  · intro found
    fun_induction splitAtAngle? cs generalizing before with
    | case1 => cases found
    | case2 rest =>
      cases found
      exact ⟨rfl, List.not_mem_nil⟩
    | case3 c rest other ih =>
      obtain ⟨⟨earlier, behind⟩, split, same⟩ := Option.map_eq_some_iff.mp found
      cases same
      obtain ⟨rest_eq, none_earlier⟩ := ih split
      refine ⟨by rw [rest_eq, List.cons_append], ?_⟩
      exact List.not_mem_cons_of_ne_of_not_mem (fun same => other same.symm) none_earlier
  · rintro ⟨rfl, none_before⟩
    exact splitAtAngle?_append none_before after

theorem upToSeparator_of_not_mem {word : List Char} (single : ':' ∉ word) :
    upToSeparator word = word := by
  fun_induction upToSeparator word with
  | case1 rest => exact absurd List.mem_cons_self single
  | case2 c rest other ih => rw [ih fun member => single (List.mem_cons_of_mem _ member)]
  | case3 => rfl

theorem upToSeparator_append {word : List Char} (single : ':' ∉ word) (rest : List Char) :
    upToSeparator (word ++ ':' :: ':' :: rest) = word := by
  induction word with
  | nil => rfl
  | cons c others ih =>
    obtain ⟨other, later⟩ := not_or.mp (mt List.mem_cons.mpr single)
    rw [List.cons_append, upToSeparator, ih later]
    rintro behind rfl
    exact absurd rfl other

/-- Without a separator all characters are in front of it. -/
theorem upToSeparator_cases (cs : List Char) :
    upToSeparator cs = cs ∨ ∃ rest, cs = upToSeparator cs ++ ':' :: ':' :: rest := by
  fun_induction upToSeparator cs with
  | case1 rest => exact .inr ⟨rest, rfl⟩
  | case2 c rest other ih =>
    rcases ih with all | ⟨behind, split⟩
    · exact .inl (by rw [all])
    · exact .inr ⟨behind, by rw [List.cons_append, ← split]⟩
  | case3 => exact .inl rfl

/-- What stands in front of the last component ends in a separator, if anything does. -/
theorem lastComponent_eq_iff {cs word : List Char} (single : ':' ∉ word) :
    lastComponent cs = word ↔ ∃ before, cs = before ++ word ∧ EndsPath before := by
  unfold lastComponent
  rw [List.reverse_eq_iff]
  have single_reverse : ':' ∉ word.reverse := mt List.mem_reverse.mp single
  constructor
  · intro component
    rcases upToSeparator_cases cs.reverse with all | ⟨rest, split⟩
    · exact ⟨[], List.reverse_inj.mp (all.symm.trans component), .inl rfl⟩
    · rw [component] at split
      refine ⟨rest.reverse ++ [':', ':'], ?_, .inr ⟨_, rfl⟩⟩
      rw [← List.reverse_reverse cs, split]
      simp
  · rintro ⟨before, rfl, rfl | ⟨path, rfl⟩⟩
    · exact upToSeparator_of_not_mem single_reverse
    · rw [List.reverse_append, List.reverse_append]
      exact upToSeparator_append single_reverse path.reverse

/-! ## What is accepted -/

theorem toList_option_open : "Option<".toList = "Option".toList ++ ['<'] := by decide

theorem isContextType_iff_split (type : List Token) :
    isContextType type ↔ ∃ before after,
      typeSpelling type = before ++ '<' :: after ++ "<'static,str>>".toList ∧ '<' ∉ before ∧
        lastComponent before = "Option".toList ∧ lastComponent after = "Cow".toList := by
  unfold isContextType
  constructor
  · intro accepted
    split at accepted
    · next before after found =>
      obtain ⟨cut, ended, split⟩ := Option.bind_eq_some_iff.mp found
      obtain ⟨rfl, none_before⟩ := splitAtAngle?_eq_some_iff.mp split
      rw [Bool.and_eq_true, beq_iff_eq, beq_iff_eq] at accepted
      exact ⟨before, after, withoutEnd?_eq_some_iff.mp ended, none_before, accepted⟩
    · cases accepted
  · rintro ⟨before, after, spelled, none_before, option, cow⟩
    rw [withoutEnd?_eq_some_iff.mpr spelled, Option.bind_some, splitAtAngle?_append none_before]
    simp only [option, cow, beq_self_eq_true, Bool.and_self]

/-- A type is accepted exactly when its spelling has the two names at its first and at its last
angle bracket, with nothing or the end of a path in front of each. -/
theorem isContextType_iff (type : List Token) :
    isContextType type ↔ ∃ outer inner,
      typeSpelling type =
        outer ++ "Option<".toList ++ inner ++ "Cow<'static,str>>".toList ∧
      '<' ∉ outer ∧ EndsPath outer ∧ EndsPath inner := by
  rw [isContextType_iff_split]
  have option_single : ':' ∉ "Option".toList := by decide
  have cow_single : ':' ∉ "Cow".toList := by decide
  have cow_end : "Cow<'static,str>>".toList = "Cow".toList ++ "<'static,str>>".toList := by decide
  constructor
  · rintro ⟨before, after, spelled, none_before, option, cow⟩
    obtain ⟨outer, rfl, outer_ends⟩ := (lastComponent_eq_iff option_single).mp option
    obtain ⟨inner, rfl, inner_ends⟩ := (lastComponent_eq_iff cow_single).mp cow
    refine ⟨outer, inner, ?_, fun member => ?_, outer_ends, inner_ends⟩
    · rw [spelled, toList_option_open, cow_end]
      simp only [List.append_assoc, List.cons_append, List.nil_append]
    · exact none_before (List.mem_append_left _ member)
  · rintro ⟨outer, inner, spelled, none_outer, outer_ends, inner_ends⟩
    refine ⟨outer ++ "Option".toList, inner ++ "Cow".toList, ?_, ?_,
      (lastComponent_eq_iff option_single).mpr ⟨outer, rfl, outer_ends⟩,
      (lastComponent_eq_iff cow_single).mpr ⟨inner, rfl, inner_ends⟩⟩
    · rw [spelled, toList_option_open, cow_end]
      simp only [List.append_assoc, List.cons_append, List.nil_append]
    · exact fun member => (List.mem_append.mp member).elim none_outer (by decide)

/-! ## The paths that are meant -/

/-- An identifier that may stand in a path and is not marked as raw. -/
structure Identifier.IsPlain (id : Identifier) : Prop where
  notRaw : id.raw = false
  letters : Scan.identifier id.text.toList = some []
  usable : id.isName ∨ id.text ∈ ["super", "self", "Self", "crate"]

/-- Identifiers, each with a path separator behind it, and perhaps a separator in front. -/
inductive IsPathStart : List Token → Prop where
  | nothing : IsPathStart []
  | separator (first second : Bool) : IsPathStart [.punct ':' first, .punct ':' second]
  | name {start : List Token} {id : Identifier} (before : IsPathStart start)
      (plain : id.IsPlain) (first second : Bool) :
      IsPathStart (start ++ [.name id, .punct ':' first, .punct ':' second])

/-- An optional text of static or owned characters, with any path in front of either name. -/
inductive IsContextPath : List Token → Prop where
  | intro {outer inner ending : List Token} (outerStart : IsPathStart outer)
      (innerStart : IsPathStart inner)
      (ends : typeSpelling ending = "'static,str>>".toList) (first second : Bool) :
      IsContextPath (outer ++ .word "Option" :: .punct '<' first ::
        (inner ++ .word "Cow" :: .punct '<' second :: ending))

/-- A path whose arguments begin with a path with arguments, in which no further angle bracket
opens. -/
inductive IsNestedPath : List Token → Prop where
  | intro {outer inner ending : List Token} {name inside : Identifier}
      (outerStart : IsPathStart outer) (innerStart : IsPathStart inner) (plain : name.IsPlain)
      (insidePlain : inside.IsPlain) (closed : '<' ∉ typeSpelling ending)
      (first second : Bool) :
      IsNestedPath (outer ++ .name name :: .punct '<' first ::
        (inner ++ .name inside :: .punct '<' second :: ending))

namespace Identifier.IsPlain

variable {id : Identifier}

theorem isWordChar (plain : id.IsPlain) : ∀ c ∈ id.text.toList, Text.isWordChar c := by
  have letters := plain.letters
  cases text : id.text.toList with
  | nil => exact List.forall_mem_nil _
  | cons c rest =>
    rw [text, Scan.identifier] at letters
    split at letters
    · next starts =>
      have parts := List.dropWhile_eq_nil_iff.mp (Option.some.inj letters)
      refine List.forall_mem_cons.mpr ⟨?_, fun other member => ?_⟩
      · rw [Text.isWordChar, starts, Bool.true_or]
      · rw [Text.isWordChar, parts other member, Bool.or_true]
    · cases letters

theorem not_mem (plain : id.IsPlain) {c : Char} (other : Text.isWordChar c = false) :
    c ∉ id.text.toList := by
  intro member
  rw [plain.isWordChar c member] at other
  cases other

theorem typeSpelling (plain : id.IsPlain) :
    ErrorEnum.typeSpelling [.name id] = id.text.toList := by
  have spelling : id.spelling = id.text := by rw [Identifier.spelling, plain.notRaw]; rfl
  simp only [ErrorEnum.typeSpelling, List.flatMap_singleton, Token.text, spelling]
  refine List.filter_eq_self.mpr fun c member => ?_
  simpa using not_isWhitespace_of_isWordChar (plain.isWordChar c member)

theorem eq_plain (plain : id.IsPlain) {text : String}
    (spelled : id.text.toList = text.toList) : id = .plain text := by
  have same : id.text = text := String.toList_inj.mp spelled
  rw [← same, Identifier.plain, ← plain.notRaw]

end Identifier.IsPlain

theorem isPlain_option : (Identifier.plain "Option").IsPlain :=
  ⟨rfl, by decide +kernel, .inl (by decide)⟩

theorem isPlain_cow : (Identifier.plain "Cow").IsPlain :=
  ⟨rfl, by decide +kernel, .inl (by decide)⟩

theorem typeSpelling_append (first rest : List Token) :
    typeSpelling (first ++ rest) = typeSpelling first ++ typeSpelling rest := by
  simp [typeSpelling]

theorem typeSpelling_cons (token : Token) (rest : List Token) :
    typeSpelling (token :: rest) = typeSpelling [token] ++ typeSpelling rest :=
  typeSpelling_append [token] rest

theorem typeSpelling_punct {c : Char} (visible : isWhitespace c = false) (joined : Bool) :
    typeSpelling [.punct c joined] = [c] := by
  simp [typeSpelling, Token.text, visible]

theorem typeSpelling_angle (joined : Bool) (rest : List Token) :
    typeSpelling (.punct '<' joined :: rest) = '<' :: typeSpelling rest := by
  rw [typeSpelling_cons, typeSpelling_punct (by decide +kernel)]
  rfl

theorem typeSpelling_separator (first second : Bool) :
    typeSpelling [.punct ':' first, .punct ':' second] = [':', ':'] := by
  have visible : isWhitespace ':' = false := by decide +kernel
  rw [typeSpelling_cons, typeSpelling_punct visible, typeSpelling_punct visible]
  rfl

namespace IsPathStart

variable {start : List Token}

theorem endsPath (path : IsPathStart start) : EndsPath (typeSpelling start) := by
  cases path with
  | nothing => exact .inl rfl
  | separator first second => exact .inr ⟨[], typeSpelling_separator first second⟩
  | @name start id before plain first second =>
    refine .inr ⟨typeSpelling start ++ typeSpelling [.name id], ?_⟩
    rw [typeSpelling_append, typeSpelling_cons (.name id), typeSpelling_separator,
      List.append_assoc]

theorem angle_not_mem (path : IsPathStart start) : '<' ∉ typeSpelling start := by
  induction path with
  | nothing => exact List.not_mem_nil
  | separator first second =>
    rw [typeSpelling_separator]
    decide
  | name before plain first second ih =>
    rw [typeSpelling_append, typeSpelling_cons (.name _), plain.typeSpelling,
      typeSpelling_separator, List.mem_append, List.mem_append, not_or, not_or]
    exact ⟨ih, plain.not_mem (by decide +kernel), by decide⟩

/-- A type in front of which a path starts does not begin with a reference. -/
theorem head?_ne (path : IsPathStart start) (id : Identifier) (rest : List Token)
    (joined : Bool) : (start ++ .name id :: rest).head? ≠ some (.punct '&' joined) := by
  induction path generalizing id rest with
  | nothing => simp
  | separator first second => simp
  | @name start earlier before plain first second ih =>
    rw [List.append_assoc]
    exact ih earlier _

end IsPathStart

/-! ## Nested paths -/

theorem typeSpelling_nested {outer inner ending : List Token} {name inside : Identifier}
    (plain : name.IsPlain) (insidePlain : inside.IsPlain) (first second : Bool) :
    typeSpelling (outer ++ .name name :: .punct '<' first ::
        (inner ++ .name inside :: .punct '<' second :: ending)) =
      (typeSpelling outer ++ name.text.toList) ++ '<' ::
        ((typeSpelling inner ++ inside.text.toList) ++ '<' :: typeSpelling ending) := by
  rw [typeSpelling_append, typeSpelling_cons (.name name), plain.typeSpelling,
    typeSpelling_angle, typeSpelling_append, typeSpelling_cons (.name inside),
    insidePlain.typeSpelling, typeSpelling_angle, List.append_assoc, List.append_assoc]

/-- The last angle bracket is the one that none stands behind. -/
theorem eq_of_last_angle {before before' after after' : List Char}
    (same : before ++ '<' :: after = before' ++ '<' :: after') (none_after : '<' ∉ after)
    (none_after' : '<' ∉ after') : before = before' ∧ after = after' := by
  have reversed : after.reverse ++ '<' :: before.reverse =
      after'.reverse ++ '<' :: before'.reverse := by
    simpa using congrArg List.reverse same
  have split := splitAtAngle?_append (mt List.mem_reverse.mp none_after) before.reverse
  rw [reversed, splitAtAngle?_append (mt List.mem_reverse.mp none_after')] at split
  obtain ⟨after_eq, before_eq⟩ := Prod.mk.inj (Option.some.inj split)
  exact ⟨(List.reverse_inj.mp before_eq).symm, (List.reverse_inj.mp after_eq).symm⟩

namespace IsContextPath

variable {type : List Token}

theorem isNestedPath (path : IsContextPath type) : IsNestedPath type := by
  cases path with
  | intro outerStart innerStart ends first second =>
    refine .intro outerStart innerStart isPlain_option isPlain_cow ?_ first second
    rw [ends]
    decide

theorem isContextType (path : IsContextPath type) : isContextType type := by
  cases path with
  | @intro outer inner ending outerStart innerStart ends first second =>
    rw [isContextType_iff]
    refine ⟨typeSpelling outer, typeSpelling inner, ?_, outerStart.angle_not_mem,
      outerStart.endsPath, innerStart.endsPath⟩
    have cow_end : "Cow<'static,str>>".toList =
        "Cow".toList ++ '<' :: "'static,str>>".toList := by decide
    rw [Token.word, Token.word, typeSpelling_nested isPlain_option isPlain_cow, ends,
      toList_option_open, cow_end]
    simp only [Identifier.plain, List.append_assoc, List.cons_append, List.nil_append]

end IsContextPath

theorem IsNestedPath.isContextPath {type : List Token} (nested : IsNestedPath type)
    (accepted : isContextType type) : IsContextPath type := by
  cases nested with
  | @intro outer inner ending name inside outerStart innerStart plain insidePlain closed first
      second =>
    obtain ⟨before, after, spelled, none_before, option, cow⟩ :=
      (isContextType_iff_split _).mp accepted
    have ends_open : "<'static,str>>".toList = '<' :: "'static,str>>".toList := by decide
    rw [typeSpelling_nested plain insidePlain, ends_open, List.append_assoc before,
      List.cons_append] at spelled
    -- The brackets of the spelling are those of the two paths: the first one and the last one.
    have none_head : '<' ∉ typeSpelling outer ++ name.text.toList := by
      rw [List.mem_append, not_or]
      exact ⟨outerStart.angle_not_mem, plain.not_mem (by decide +kernel)⟩
    have head := splitAtAngle?_append none_head
      ((typeSpelling inner ++ inside.text.toList) ++ '<' :: typeSpelling ending)
    rw [spelled, splitAtAngle?_append none_before] at head
    obtain ⟨rfl, behind⟩ := Prod.mk.inj (Option.some.inj head)
    obtain ⟨rfl, ends⟩ := eq_of_last_angle behind (by decide) closed
    have colon_outside : Text.isWordChar ':' = false := by decide +kernel
    have name_eq : lastComponent (typeSpelling outer ++ name.text.toList) = name.text.toList :=
      (lastComponent_eq_iff (plain.not_mem colon_outside)).mpr ⟨_, rfl, outerStart.endsPath⟩
    have inside_eq : lastComponent (typeSpelling inner ++ inside.text.toList) =
        inside.text.toList :=
      (lastComponent_eq_iff (insidePlain.not_mem colon_outside)).mpr
        ⟨_, rfl, innerStart.endsPath⟩
    rw [plain.eq_plain (name_eq.symm.trans option), insidePlain.eq_plain (inside_eq.symm.trans cow)]
    exact .intro outerStart innerStart ends.symm first second

/-- Exactly which types are taken for the type of contexts, for every list of tokens: those whose
spelling ends in the inner name with its arguments, and has the outer name at its first angle
bracket, where nothing or the end of a path stands in front of either name. Among the types that
are a path in a path, these are the types that are meant; no type that is meant is refused. -/
theorem isContextType_exact (type : List Token) :
    (isContextType type ↔ ∃ outer inner,
      typeSpelling type =
        outer ++ "Option<".toList ++ inner ++ "Cow<'static,str>>".toList ∧
      '<' ∉ outer ∧ EndsPath outer ∧ EndsPath inner) ∧
    (IsContextPath type ↔ IsNestedPath type ∧ isContextType type) := by
  refine ⟨isContextType_iff type, fun path => ⟨path.isNestedPath, path.isContextType⟩, ?_⟩
  rintro ⟨nested, accepted⟩
  exact nested.isContextPath accepted

/-! ## A reference -/

/-- An enum whose context is a reference to a context. -/
def borrowedContextText : String :=
  "enum E \x7b V \x7b context: &'static std::option::Option<Cow<'static, str>>, \x7d \x7d"

def borrowedContextTokens : List Token :=
  .punct '&' true :: .lifetime (.plain "static") :: .word "std" :: symbolTokens [':', ':'] ++
    .word "option" :: symbolTokens [':', ':'] ++ contextTokens

def borrowedContextEnum : Enumeration where
  attributes := []
  visibility := []
  name := .plain "E"
  generics := []
  whereClause := []
  variants := [⟨[], .plain "V",
    .named [⟨[], [], .plain "context", borrowedContextTokens⟩] true, []⟩]
  comma := false

/-- The reference is taken for a context. -/
theorem isContextType_borrowedContext :
    Item.parse? borrowedContextText = some (.enumeration borrowedContextEnum) ∧
      isContextType borrowedContextTokens ∧ ¬ IsContextPath borrowedContextTokens := by
  refine ⟨by decide +kernel, by decide +kernel, fun path => ?_⟩
  generalize same : borrowedContextTokens = type at path
  cases path with
  | @intro outer inner ending outerStart innerStart ends first second =>
    have head := outerStart.head?_ne (.plain "Option")
      (.punct '<' first :: (inner ++ .word "Cow" :: .punct '<' second :: ending)) true
    rw [← Token.word, ← same] at head
    exact head rfl

end IdentityClaims.ErrorEnum
