import RefAtlas.Proofs.Reference.DeclarationRules
import RefAtlas.Proofs.Reference.NameSegments

/-! # Units of one declaration

* `Opening`: the words in front of the type of a field or of a method's result.
* `Declaration`: the places in which a declaration names a type, and `Declaration.chars`, its text
  with a type there.
* `Declaration.not_mem_chars`, `Declaration.mem_openingWords`: the marks and words in such a text.
-/

namespace RefAtlas.Reference
open RefAtlas.Text
open RefAtlas.Pattern (IsName)
set_option autoImplicit false

/-! ## Declarations -/

/-- Words in front of a type, of which the first one opens the declaration. -/
structure Opening (ws ms : List String) where
  first : String
  more : List String
  known : first ∈ ws
  known' : ∀ m ∈ more, m ∈ ms

def Opening.tokens {ws ms : List String} (o : Opening ws ms) : List (List Char) :=
  (o.first :: o.more).map String.toList

/-- A declaration, but for a type that it names: the type of a field, of the result or a parameter
of a method, a base, the type of a value that is made, or an attribute. -/
inductive Declaration where
  | field (opening : Opening accessWords fieldModifiers) (name : Identifier) (ending : Char)
    (hends : ending ∈ [';', '=', ',', '\x7b'])
  | result (opening : Opening methodWords methodModifiers) (name : Identifier)
  | parameter (opening : Opening methodWords methodModifiers) (method name : Identifier)
  | base (kind : String) (known : kind ∈ kindWords) (name : Identifier)
  | creation (name : Identifier)
  | usage

namespace Declaration

/-- The rule for the place of the type. -/
def rule : Declaration → Rule
  | field .. => .fields
  | result .. => .methods
  | parameter .. => .methods
  | base .. => .inheritance
  | creation _ => .instantiations
  | usage => .attributes

def tokens (type : List Char) : Declaration → List (List Char)
  | field opening .. => opening.tokens ++ [type]
  | result opening _ => opening.tokens ++ [type]
  | parameter opening method _ =>
    opening.tokens ++ ["void".toList, method.chars ++ '(' :: type]
  | base kind _ name => [kind.toList, name.chars, [':'], type]
  | creation name => [name.chars, ['='], "new".toList]
  | usage => []

/-- What stands behind the last space. -/
def last (type : List Char) : Declaration → List Char
  | field _ name ending _ => name.chars ++ [ending]
  | result _ name => name.chars ++ ['(', ')']
  | parameter _ _ name => name.chars ++ [')']
  | base .. => ['\x7b']
  | creation _ => type ++ ['(', ')']
  | usage => '[' :: (type ++ [']'])

/-- The text of the declaration with a type in its place. -/
def chars (d : Declaration) (type : List Char) : List Char := spaced (d.tokens type) (d.last type)

/-- The characters of the text that are in no name. -/
def marks : Declaration → List Char
  | field _ _ ending _ => [ending]
  | result .. => ['(', ')']
  | parameter .. => ['(', ')']
  | base .. => ['\x7b']
  | creation _ => ['=', '(', ')']
  | usage => ['[', ']']

/-- Words behind which a name may begin, apart from the end of the type. -/
def words : Declaration → List String
  | field .. => accessWords ++ fieldModifiers
  | result .. => methodWords ++ methodModifiers
  | parameter .. => "void" :: (methodWords ++ methodModifiers)
  | base .. => "" :: kindWords
  | creation _ => ["", "new"]
  | usage => []

end Declaration

theorem isName_of_mem_words :
    ∀ w ∈ accessWords ++ fieldModifiers ++ (methodWords ++ methodModifiers) ++ kindWords,
      IsName w.toList := by
  have hall : ((accessWords ++ fieldModifiers ++ (methodWords ++ methodModifiers) ++ kindWords).all
      fun w => w.toList.head?.any isNameStart && w.toList.all isWord) = true := by decide
  intro w hw
  obtain ⟨hstart, hword⟩ := Bool.and_eq_true_iff.1 (List.all_eq_true.1 hall w hw)
  cases hchars : w.toList with
  | nil => simp [hchars] at hstart
  | cons c tail =>
    rw [hchars] at hstart hword
    exact ⟨c, tail, rfl, hstart, (List.forall_mem_cons.1 (List.all_eq_true.1 hword)).2⟩

theorem isName_of_mem_fieldWords : ∀ w ∈ accessWords ++ fieldModifiers, IsName w.toList :=
  fun w hw => isName_of_mem_words w (by simp only [List.mem_append] at hw ⊢; tauto)

theorem isName_of_mem_methodWords : ∀ w ∈ methodWords ++ methodModifiers, IsName w.toList :=
  fun w hw => isName_of_mem_words w (by simp only [List.mem_append] at hw ⊢; tauto)

theorem isName_of_mem_kindWords : ∀ w ∈ kindWords, IsName w.toList :=
  fun _ hw => isName_of_mem_words _ (List.mem_append_right _ hw)

theorem Opening.exists_word {ws ms : List String} (o : Opening ws ms) :
    ∀ token ∈ o.tokens, ∃ w ∈ ws ++ ms, token = w.toList :=
  List.forall_mem_map.2 (List.forall_mem_cons.2
    ⟨⟨o.first, List.mem_append_left ms o.known, rfl⟩,
      fun m hm => ⟨m, List.mem_append_right ws (o.known' m hm), rfl⟩⟩)

theorem Opening.not_mem_declared {ws ms : List String} (o : Opening ws ms)
    (h : ∀ w ∈ ws ++ ms, IsName w.toList) (q : QualifiedName) (name : Identifier) {c : Char}
    (hpart : isNamePart c = false) (hspace : c ≠ ' ') :
    c ∉ spaced (o.tokens ++ [q.chars]) name.chars := by
  have hword : ∀ token ∈ o.tokens, ∀ c ∈ token, isNamePart c = true ∨ c = ' ' := by
    intro token htoken c hc
    obtain ⟨w, hw, rfl⟩ := o.exists_word token htoken
    exact .inl (isNamePart_of_isWord ((h w hw).isWord_of_mem c hc))
  have htype : ∀ token ∈ [q.chars], ∀ c ∈ token, isNamePart c = true ∨ c = ' ' :=
    List.forall_mem_singleton.2 fun c hc => .inl (q.isNamePart_of_mem hc)
  intro hmem
  rcases forall_mem_spaced (List.forall_mem_append.2 ⟨hword, htype⟩) (.inr rfl)
    (fun c hc => .inl (isNamePart_of_isWord (name.isWord_of_mem hc))) c hmem with hc | hc
  · simp [hc] at hpart
  · exact hspace hc

theorem Opening.exists_word_of_mem_map {ws ms : List String} (o : Opening ws ms)
    (h : ∀ w ∈ ws ++ ms, IsName w.toList) :
    ∀ word ∈ o.tokens.map lastWord, ∃ w ∈ ws ++ ms, word = w.toList := by
  refine List.forall_mem_map.2 fun token htoken => ?_
  obtain ⟨w, hw, rfl⟩ := o.exists_word token htoken
  exact ⟨w, hw, lastWord_of_isName (h w hw)⟩

theorem Opening.mem_openingWords {ws ms : List String} (o : Opening ws ms)
    (h : ∀ w ∈ ws ++ ms, IsName w.toList) (q : QualifiedName) {last : List Char} :
    ∀ word ∈ openingWords (o.tokens ++ [q.chars]) last,
      word = q.last.chars ∨ ∃ w ∈ ws ++ ms, word = w.toList := by
  intro word hword
  have hmem := openingWords_subset hword
  rw [List.map_append, List.mem_append, List.map_singleton, List.mem_singleton,
    q.lastWord_chars] at hmem
  exact hmem.symm.imp_right (o.exists_word_of_mem_map h word)

namespace Declaration
variable (d : Declaration) (q : QualifiedName) {kind : String}

/-! ### The characters of the text -/

theorem mem_token : ∀ token ∈ d.tokens q.chars,
    token ≠ [] ∧ ∀ c ∈ token, isNamePart c = true ∨ c ∈ d.marks := by
  have hidentifier (i : Identifier) : i.chars ≠ [] ∧
      ∀ c ∈ i.chars, isNamePart c = true ∨ c ∈ d.marks :=
    ⟨List.cons_ne_nil _ _, fun c hc => .inl (isNamePart_of_isWord (i.isWord_of_mem hc))⟩
  have htype : q.chars ≠ [] ∧ ∀ c ∈ q.chars, isNamePart c = true ∨ c ∈ d.marks :=
    ⟨q.trimmed.ne_nil, fun c hc => .inl (q.isNamePart_of_mem hc)⟩
  have hword {w : String} (h : IsName w.toList) : w.toList ≠ [] ∧
      ∀ c ∈ w.toList, isNamePart c = true ∨ c ∈ d.marks :=
    ⟨h.ne_nil, fun c hc => .inl (isNamePart_of_isWord (h.isWord_of_mem c hc))⟩
  have hopening {ws ms : List String} (o : Opening ws ms) (h : ∀ w ∈ ws ++ ms, IsName w.toList) :
      ∀ token ∈ o.tokens, token ≠ [] ∧ ∀ c ∈ token, isNamePart c = true ∨ c ∈ d.marks := by
    intro token htoken
    obtain ⟨w, hw, rfl⟩ := o.exists_word token htoken
    exact hword (h w hw)
  cases d with
  | field opening name ending hends =>
    exact List.forall_mem_append.2 ⟨hopening opening isName_of_mem_fieldWords,
      List.forall_mem_singleton.2 htype⟩
  | result opening name =>
    exact List.forall_mem_append.2 ⟨hopening opening isName_of_mem_methodWords,
      List.forall_mem_singleton.2 htype⟩
  | parameter opening method name =>
    refine List.forall_mem_append.2 ⟨hopening opening isName_of_mem_methodWords,
      List.forall_mem_cons.2 ⟨hword ⟨'v', ['o', 'i', 'd'], rfl, rfl, ?_⟩,
      List.forall_mem_singleton.2 ⟨by simp, ?_⟩⟩⟩
    · exact List.all_eq_true.1 (by decide)
    · exact List.forall_mem_append.2 ⟨(hidentifier method).2, List.forall_mem_cons.2
        ⟨.inr List.mem_cons_self, htype.2⟩⟩
  | base kind known name =>
    exact List.forall_mem_cons.2 ⟨hword (isName_of_mem_kindWords kind known),
      List.forall_mem_cons.2 ⟨hidentifier name, List.forall_mem_cons.2
        ⟨⟨List.cons_ne_nil _ _, List.forall_mem_singleton.2 (.inl rfl)⟩,
          List.forall_mem_singleton.2 htype⟩⟩⟩
  | creation name =>
    refine List.forall_mem_cons.2 ⟨hidentifier name, List.forall_mem_cons.2
      ⟨⟨List.cons_ne_nil _ _, List.forall_mem_singleton.2 (.inr List.mem_cons_self)⟩,
        List.forall_mem_singleton.2 (hword ⟨'n', ['e', 'w'], rfl, rfl, ?_⟩)⟩⟩
    exact List.all_eq_true.1 (by decide)
  | usage => exact List.forall_mem_nil _

theorem mem_last : ∀ c ∈ d.last q.chars, isNamePart c = true ∨ c ∈ d.marks := by
  have hname (i : Identifier) : ∀ c ∈ i.chars, isNamePart c = true :=
    fun c hc => isNamePart_of_isWord (i.isWord_of_mem hc)
  have hpart : ∀ c ∈ q.chars, isNamePart c = true := fun _ => q.isNamePart_of_mem
  cases d <;> simp [last, marks] <;> grind

theorem isBlank_of_mark : ∀ c ∈ d.marks, isBlank c = false := by
  cases d with
  | field opening name ending hends =>
    have hall : ∀ c ∈ [';', '=', ',', '\x7b'], isBlank c = false := by simp [isBlank]
    exact List.forall_mem_singleton.2 (hall ending hends)
  | _ => simp [marks, isBlank]

variable {d} in
theorem isBlank_eq_false_of_mark {c : Char} (h : isNamePart c = true ∨ c ∈ d.marks) :
    isBlank c = false :=
  h.elim isBlank_eq_false_of_isNamePart (d.isBlank_of_mark c)

theorem areTokens : AreTokens (d.tokens q.chars) := fun token htoken =>
  ⟨(d.mem_token q token htoken).1,
    fun c hc => isBlank_eq_false_of_mark ((d.mem_token q token htoken).2 c hc)⟩

theorem isBlank_last : ∀ c ∈ d.last q.chars, isBlank c = false :=
  fun c hc => isBlank_eq_false_of_mark (d.mem_last q c hc)

theorem not_mem_chars {c : Char} (hpart : isNamePart c = false) (hspace : c ≠ ' ')
    (hmark : c ∉ d.marks) : c ∉ d.chars q.chars := fun hmem =>
  forall_mem_spaced (p := fun c => isNamePart c = true ∨ c = ' ' ∨ c ∈ d.marks)
    (fun token htoken c hc => ((d.mem_token q token htoken).2 c hc).imp_right .inr) (.inr (.inl rfl))
    (fun c hc => (d.mem_last q c hc).imp_right .inr) c hmem |>.elim
    (fun h => by simp [h] at hpart) (fun h => h.elim hspace hmark)

/-! ### The words of the text -/

theorem mem_openingWords_base (hkind : IsName kind.toList) (name : Identifier) :
    ∀ word ∈ openingWords [kind.toList, name.chars, [':'], q.chars] ['\x7b'],
      word ∈ [kind.toList, "".toList, q.last.chars] := by
  have hcolon : lastWord [':'] = "".toList := by decide
  have hname : (spaced [[':'], q.chars] ['\x7b']).head?.any isNameStart = false := by
    rw [spaced_cons]
    rfl
  intro word hword
  have hmem : word ∈ [lastWord kind.toList, lastWord [':'], lastWord q.chars] := by
    rw [openingWords, openingWords, hname, if_neg Bool.false_ne_true] at hword
    split at hword
    · exact List.cons_subset_cons _ openingWords_subset hword
    · exact List.mem_cons_of_mem _ (openingWords_subset hword)
  rwa [lastWord_of_isName hkind, hcolon, q.lastWord_chars] at hmem

theorem mem_openingWords_creation (name : Identifier) :
    ∀ word ∈ openingWords [name.chars, ['='], "new".toList] (q.chars ++ ['(', ')']),
      word ∈ ["".toList, "new".toList] := by
  have hequals : lastWord ['='] = "".toList := by decide
  have hnew : lastWord "new".toList = "new".toList := by decide
  have hname : (spaced [['='], "new".toList] (q.chars ++ ['(', ')'])).head?.any isNameStart =
      false := by
    rw [spaced_cons]
    rfl
  intro word hword
  rw [openingWords, hname, if_neg Bool.false_ne_true] at hword
  have hmem := openingWords_subset hword
  rwa [List.map_cons, List.map_singleton, hequals, hnew] at hmem

/-- A name begins behind the words of the declaration, and behind the end of the type at most. -/
theorem mem_openingWords : ∀ word ∈ openingWords (d.tokens q.chars) (d.last q.chars),
    word = q.last.chars ∨ ∃ w ∈ d.words, word = w.toList := by
  intro word hword
  cases d with
  | field opening name ending hends =>
    exact opening.mem_openingWords isName_of_mem_fieldWords q word hword
  | result opening name =>
    exact opening.mem_openingWords isName_of_mem_methodWords q word hword
  | parameter opening method name =>
    have htype : lastWord (method.chars ++ '(' :: q.chars) = q.last.chars := by
      rw [List.append_cons]
      exact q.lastWord_append_chars (by simp; decide)
    have hvoid : lastWord "void".toList = "void".toList := by decide
    have hmem := openingWords_subset hword
    rw [tokens, List.map_append, List.mem_append, List.map_cons, List.map_singleton,
      List.mem_cons, List.mem_singleton, htype, hvoid] at hmem
    rcases hmem with hmem | hmem | hmem
    · obtain ⟨w, hw, rfl⟩ := opening.exists_word_of_mem_map isName_of_mem_methodWords word hmem
      exact .inr ⟨w, List.mem_cons_of_mem _ hw, rfl⟩
    · exact .inr ⟨"void", List.mem_cons_self, hmem⟩
    · exact .inl hmem
  | base kind known name =>
    have hmem := mem_openingWords_base q (isName_of_mem_kindWords kind known) name word hword
    rw [List.mem_cons, List.mem_cons, List.mem_singleton] at hmem
    rcases hmem with hmem | hmem | hmem
    · exact .inr ⟨kind, List.mem_cons_of_mem _ known, hmem⟩
    · exact .inr ⟨"", List.mem_cons_self, hmem⟩
    · exact .inl hmem
  | creation name =>
    exact .inr (by simpa [words] using mem_openingWords_creation q name word hword)
  | usage => cases hword

theorem not_mem_openingWords {q : QualifiedName} (hkept : isFiltered q.text = false)
    {w : String} (hkeyword : isKeyword w = true) (hw : w ∉ d.words) :
    w.toList ∉ openingWords (d.tokens q.chars) (d.last q.chars) := fun hmem => by
  rcases d.mem_openingWords q _ hmem with hlast | ⟨w', hw', hwords⟩
  · exact QualifiedName.toList_ne_last hkept hkeyword hlast
  · exact hw (String.toList_inj.1 hwords ▸ hw')

end Declaration

end RefAtlas.Reference
