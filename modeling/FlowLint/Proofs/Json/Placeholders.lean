import FlowLint.Proofs.Json.Documents
import FlowLint.Proofs.Json.Escapes

/-!
# Placeholders in JSON texts

The placeholders of a value are looked for in its JSON text and not in the texts that it holds. In
the JSON text a name beyond ASCII is escaped, so it is no placeholder any more; and an expression
that one text leaves open can be closed by a later text, or by the braces of the mappings around it.
When that does not happen, the names that are found are the ASCII names that the texts hold.

* **`placeholders_text`**: a document is looked through text by text. The induction is on the
  document, whatever stands behind it.
* **`Value.IsJson.stands_iff`**: the texts in the document of a value are those that the value
  holds.
* **`Value.IsJson.placeholders_exact`**: what is found in the JSON text of a value, which it has
  when it is not too deep.
-/

namespace FlowLint

namespace Json

open Text

/-! ## Scalars -/

/-- The text that stands between quotes for the scalar. -/
def scalarString? : Scalar → Option String
  | .text s => some s
  | .octets bytes => some (quotedOctets bytes)
  | .time t => some t.text
  | _ => none

theorem scalarText_of_some {scalar : Scalar} {s : String} (h : scalarString? scalar = some s) :
    scalarText scalar = stringText s := by
  cases scalar with
  | text _ | octets _ | time _ =>
    cases h
    rfl
  | _ => exact nomatch h

theorem not_mem_decimalDigits (n : Nat) : '\x7b' ∉ decimalDigits n :=
  not_mem_toDigits (fun _ => Nat.digitChar_ne _ (by decide)) 10 n

theorem not_mem_integerText (n : Int) : '\x7b' ∉ (integerText n).toList := by
  cases n with
  | ofNat n => simp [integerText, numberText, not_mem_decimalDigits]
  | negSucc n => simp [integerText, numberText, not_mem_decimalDigits]

theorem not_mem_decimalText (d : Binary64.Decimal) : '\x7b' ∉ d.text.toList := by
  have hkept : '\x7b' ∉ (Binary64.dropTrailingZeros (decimalDigits d.digits)).1 := by
    intro hmem
    rw [Binary64.dropTrailingZeros, List.mem_reverse] at hmem
    have hdigit := (List.dropWhile_sublist _).mem hmem
    exact not_mem_decimalDigits _ (List.mem_reverse.1 hdigit)
  simp only [Binary64.Decimal.text]
  generalize (Binary64.dropTrailingZeros (decimalDigits d.digits)).1 = kept at hkept ⊢
  have htake : ∀ n, '\x7b' ∉ kept.take n := fun n hmem => hkept (List.mem_of_mem_take hmem)
  have hdrop : ∀ n, '\x7b' ∉ kept.drop n := fun n hmem => hkept (List.mem_of_mem_drop hmem)
  have htail : '\x7b' ∉ kept.tail := fun hmem => hkept (List.mem_of_mem_tail hmem)
  split
  · split
    · simp [hkept]
    · split <;> simp [htake, hdrop]
  · rw [String.toList_append, List.mem_append, not_or]
    refine ⟨?_, by simp [paddedText, not_mem_decimalDigits]⟩
    split <;> split <;> simp [htake, htail]

theorem not_mem_floatText (x : Binary64) : '\x7b' ∉ (floatText x).toList := by
  cases x with
  | finite negative m e =>
    rw [floatText, Binary64.text]
    · have hsize : '\x7b' ∉
          (if m = 0 then "0.0" else (Binary64.shortestDecimal m e).text).toList := by
        split
        · decide
        · exact not_mem_decimalText _
      cases negative <;> simpa using hsize
    all_goals simp
  | infinite negative => cases negative <;> decide
  | nan => decide

/-- What stands for a scalar without quotes holds no brace. -/
theorem not_mem_scalarText {scalar : Scalar} (h : scalarString? scalar = none) :
    '\x7b' ∉ scalarText scalar := by
  cases scalar with
  | null => decide
  | bool b => cases b <;> decide
  | int n => exact not_mem_integerText n
  | float x => exact not_mem_floatText x
  | text _ | octets _ | time _ => exact nomatch h

/-! ## Documents

A text in a document is looked at together with all that stands behind its quotes, since that is
where an expression that it leaves open can be closed. The brackets, commas and colons between the
texts hold no opening brace, and the opening braces of objects stand before quotes, so no
placeholder begins outside the texts. -/

/-- What stands behind an item in the text of an array that goes on with the given items. -/
def itemsBehind : List Document → List Char
  | [] => []
  | rest => [',', ' '] ++ itemsText rest

/-- What stands behind a member in the text of an object that goes on with the given members. -/
def membersBehind : List (String × Document) → List Char
  | [] => []
  | rest => [',', ' '] ++ membersText rest

theorem itemsText_cons (item : Document) (rest : List Document) :
    itemsText (item :: rest) = item.text ++ itemsBehind rest := by
  cases rest with
  | nil => simp [itemsText, itemsBehind]
  | cons next rest => simp [itemsText, itemsBehind]

theorem membersText_cons (name : String) (member : Document) (rest : List (String × Document)) :
    membersText ((name, member) :: rest)
      = stringText name ++ [':', ' '] ++ member.text ++ membersBehind rest := by
  cases rest with
  | nil => simp [membersText, membersBehind]
  | cons next rest => simp [membersText, membersBehind]

mutual

/-- The texts and names in a document, each with all that stands behind its quotes; `behind` stands
behind the document. -/
def Document.strings (behind : List Char) : Document → List (String × List Char)
  | .scalar s => (scalarString? s).toList.map (·, behind)
  | .array items => itemStrings (']' :: behind) items
  | .object members => memberStrings ('\x7d' :: behind) members

def itemStrings (behind : List Char) : List Document → List (String × List Char)
  | [] => []
  | item :: rest => item.strings (itemsBehind rest ++ behind) ++ itemStrings behind rest

def memberStrings (behind : List Char) : List (String × Document) → List (String × List Char)
  | [] => []
  | (name, member) :: rest =>
    (name, [':', ' '] ++ (member.text ++ (membersBehind rest ++ behind)))
      :: member.strings (membersBehind rest ++ behind) ++ memberStrings behind rest

end

/-- No expression that the text opens is closed behind the text. -/
def KeepsExpressions (string : String × List Char) : Prop :=
  LeavesOpen string.1.toList → ¬ closing <:+: string.2

/-- The placeholders that are found where the text stands in a JSON text. -/
def asciiPlaceholders (string : String × List Char) : List String :=
  (placeholders string.1.toList).filter Text.isAscii

theorem placeholders_stringText {s : String} {behind : List Char}
    (h : KeepsExpressions (s, behind)) :
    placeholders (stringText s ++ behind)
      = asciiPlaceholders (s, behind) ++ placeholders behind := by
  have hquoted : stringText s ++ behind = ['"'] ++ (escaped s.toList ++ '"' :: behind) := by
    simp [stringText, escaped]
  rw [hquoted, placeholders_append_of_not_mem (by decide),
    placeholders_append_cons (by decide) (by decide) (by decide) fun hleft =>
      h (leavesOpen_of_escaped hleft),
    placeholders_escaped]
  rfl

/-- The brace of an object begins no placeholder. -/
theorem placeholders_brace_membersText (members : List (String × Document)) (behind : List Char) :
    placeholders ('\x7b' :: (membersText members ++ '\x7d' :: behind))
      = placeholders (membersText members ++ '\x7d' :: behind) := by
  cases members with
  | nil => exact placeholders_brace_cons (by decide) (by decide) behind
  | cons member rest =>
    obtain ⟨name, value⟩ := member
    rw [membersText_cons, stringText]
    exact placeholders_brace_cons (by decide) (by decide) _

theorem placeholders_itemsBehind (rest : List Document) (behind : List Char) :
    placeholders (itemsBehind rest ++ behind) = placeholders (itemsText rest ++ behind) := by
  have hcomma : '\x7b' ∉ [',', ' '] := by decide
  cases rest with
  | nil => rfl
  | cons item rest =>
    rw [itemsBehind, List.append_assoc, placeholders_append_of_not_mem hcomma]
    exact List.cons_ne_nil _ _

theorem placeholders_membersBehind (rest : List (String × Document)) (behind : List Char) :
    placeholders (membersBehind rest ++ behind) = placeholders (membersText rest ++ behind) := by
  have hcomma : '\x7b' ∉ [',', ' '] := by decide
  cases rest with
  | nil => rfl
  | cons member rest =>
    rw [membersBehind, List.append_assoc, placeholders_append_of_not_mem hcomma]
    exact List.cons_ne_nil _ _

mutual

/-- **A document is looked through text by text**, when every text keeps its expressions. -/
theorem placeholders_text (behind : List Char) :
    (document : Document) → (∀ string ∈ document.strings behind, KeepsExpressions string) →
      placeholders (document.text ++ behind)
        = (document.strings behind).flatMap asciiPlaceholders ++ placeholders behind
  | .scalar s, h => by
    rw [Document.strings] at h ⊢
    rw [Document.text]
    cases hs : scalarString? s with
    | none => exact placeholders_append_of_not_mem (not_mem_scalarText hs) behind
    | some string =>
      rw [hs] at h
      rw [scalarText_of_some hs, placeholders_stringText (h _ (List.mem_singleton_self _))]
      simp
  | .array items, h => by
    rw [Document.strings] at h ⊢
    have hopen : (Document.array items).text ++ behind
        = ['['] ++ (itemsText items ++ ']' :: behind) := by
      simp [Document.text]
    rw [hopen, placeholders_append_of_not_mem (by decide), placeholders_itemsText _ items h]
    have hclose : '\x7b' ∉ [']'] := by decide
    exact congrArg _ (placeholders_append_of_not_mem hclose behind)
  | .object members, h => by
    rw [Document.strings] at h ⊢
    have hopen : (Document.object members).text ++ behind
        = '\x7b' :: (membersText members ++ '\x7d' :: behind) := by
      simp [Document.text]
    rw [hopen, placeholders_brace_membersText, placeholders_membersText _ members h]
    have hclose : '\x7b' ∉ ['\x7d'] := by decide
    exact congrArg _ (placeholders_append_of_not_mem hclose behind)

theorem placeholders_itemsText (behind : List Char) :
    (items : List Document) → (∀ string ∈ itemStrings behind items, KeepsExpressions string) →
      placeholders (itemsText items ++ behind)
        = (itemStrings behind items).flatMap asciiPlaceholders ++ placeholders behind
  | [], _ => rfl
  | item :: rest, h => by
    rw [itemStrings, List.forall_mem_append] at h
    rw [itemsText_cons, List.append_assoc, placeholders_text _ item h.1, placeholders_itemsBehind,
      placeholders_itemsText behind rest h.2, itemStrings, List.flatMap_append, List.append_assoc]

theorem placeholders_membersText (behind : List Char) :
    (members : List (String × Document)) →
      (∀ string ∈ memberStrings behind members, KeepsExpressions string) →
      placeholders (membersText members ++ behind)
        = (memberStrings behind members).flatMap asciiPlaceholders ++ placeholders behind
  | [], _ => rfl
  | (name, member) :: rest, h => by
    rw [memberStrings, List.cons_append, List.forall_mem_cons, List.forall_mem_append] at h
    obtain ⟨hname, hmember, hrest⟩ := h
    have hcolon : '\x7b' ∉ [':', ' '] := by decide
    have htext : membersText ((name, member) :: rest) ++ behind
        = stringText name ++ ([':', ' '] ++ (member.text ++ (membersBehind rest ++ behind))) := by
      simp only [membersText_cons, List.append_assoc]
    -- the name comes first, then the member, then the members behind it
    rw [htext, placeholders_stringText hname, placeholders_append_of_not_mem hcolon,
      placeholders_text _ member hmember, placeholders_membersBehind,
      placeholders_membersText behind rest hrest, memberStrings]
    simp only [List.cons_append, List.flatMap_cons, List.flatMap_append, List.append_assoc]

end

/-- All texts in the document keep their expressions to themselves. -/
def Document.KeepsExpressions (document : Document) : Prop :=
  ∀ string ∈ document.strings [], Json.KeepsExpressions string

/-- **The placeholders in the text of a document**, in the order of its texts. -/
theorem placeholders_document {document : Document} (h : document.KeepsExpressions) :
    placeholders document.text = (document.strings []).flatMap asciiPlaceholders := by
  have htext := placeholders_text [] document h
  rwa [List.append_nil, placeholders_nil, List.append_nil] at htext

/-! ## The texts of a value -/

/-- The text is one of these, whatever stands behind it. -/
def Stands (s : String) (strings : List (String × List Char)) : Prop :=
  ∃ behind, (s, behind) ∈ strings

theorem stands_append {s : String} {strings more : List (String × List Char)} :
    Stands s (strings ++ more) ↔ Stands s strings ∨ Stands s more := by
  simp [Stands, exists_or]

theorem stands_cons {s name : String} {behind : List Char} {strings : List (String × List Char)} :
    Stands s ((name, behind) :: strings) ↔ name = s ∨ Stands s strings := by
  simp [Stands, exists_or, eq_comm]

variable {around : List Nat} {room : Nat} {s : String}

/-- A list that has a document has one place less for its items. -/
theorem exists_ofItems_of_list {items : List Value} {document : Document}
    (h : Document.ofValueIn around room (.list items) = .ok document) :
    ∃ left documents, Document.ofItems around left items = .ok documents
      ∧ document = .array documents := by
  cases room with
  | zero => exact nomatch h
  | succ left =>
    obtain ⟨documents, hdocuments, hdocument⟩ := Outcome.bind_eq_ok_iff.1 h
    cases hdocument
    exact ⟨left, documents, hdocuments, rfl⟩

theorem exists_ofMembers_of_map {members : Members} {document : Document}
    (h : Document.ofValueIn around room (.map members) = .ok document) :
    ∃ left documents, Document.ofMembers around left members = .ok documents
      ∧ document = .object documents := by
  cases room with
  | zero => exact nomatch h
  | succ left =>
    obtain ⟨documents, hdocuments, hdocument⟩ := Outcome.bind_eq_ok_iff.1 h
    cases hdocument
    exact ⟨left, documents, hdocuments, rfl⟩

theorem stands_itemStrings_iff (holds : Value → Prop) {items : List Value}
    {documents : List Document}
    (h : ∀ item ∈ items, ∀ d behind, Document.ofValueIn around room item = .ok d →
      (Stands s (d.strings behind) ↔ holds item))
    (hdocuments : Document.ofItems around room items = .ok documents) (behind : List Char) :
    Stands s (itemStrings behind documents) ↔ ∃ item ∈ items, holds item := by
  induction items generalizing documents with
  | nil =>
    cases hdocuments
    simp [Stands, itemStrings]
  | cons item rest ih =>
    obtain ⟨hitem, hrest⟩ := List.forall_mem_cons.1 h
    rw [Document.ofItems, Outcome.bind_eq_ok_iff] at hdocuments
    obtain ⟨first, hfirst, hdocuments⟩ := hdocuments
    rw [Outcome.bind_eq_ok_iff] at hdocuments
    obtain ⟨others, hothers, hdocuments⟩ := hdocuments
    cases hdocuments
    rw [itemStrings, stands_append, hitem first _ hfirst, ih hrest hothers,
      List.exists_mem_cons_iff]

theorem stands_memberStrings_iff (holds : Value → Prop) {members : Members}
    {documents : List (String × Document)}
    (htexts : ∀ member ∈ members, ∃ name, member.1 = .text name)
    (h : ∀ member ∈ members, ∀ d behind, Document.ofValueIn around room member.2 = .ok d →
      (Stands s (d.strings behind) ↔ holds member.2))
    (hdocuments : Document.ofMembers around room members = .ok documents) (behind : List Char) :
    Stands s (memberStrings behind documents)
      ↔ ∃ member ∈ members, member.1 = .text s ∨ holds member.2 := by
  induction members generalizing documents with
  | nil =>
    cases hdocuments
    simp [Stands, memberStrings]
  | cons member rest ih =>
    obtain ⟨key, value⟩ := member
    obtain ⟨⟨name, hname⟩, hnames⟩ := List.forall_mem_cons.1 htexts
    obtain ⟨hmember, hrest⟩ := List.forall_mem_cons.1 h
    obtain rfl : key = .text name := hname
    rw [Document.ofMembers, Outcome.bind_eq_ok_iff] at hdocuments
    obtain ⟨name', hkey, hdocuments⟩ := hdocuments
    cases hkey
    rw [Outcome.bind_eq_ok_iff] at hdocuments
    obtain ⟨first, hfirst, hdocuments⟩ := hdocuments
    rw [Outcome.bind_eq_ok_iff] at hdocuments
    obtain ⟨others, hothers, hdocuments⟩ := hdocuments
    cases hdocuments
    rw [memberStrings, List.cons_append, stands_cons, stands_append, hmember first _ hfirst,
      ih hnames hrest hothers, List.exists_mem_cons_iff, or_assoc, Scalar.text.injEq]

end Json

/-- The text stands in the value, as a value or as the name of a member, at any depth. -/
inductive Value.HoldsText : Value → String → Prop
  | text (s : String) : HoldsText (.text s) s
  | item {items : List Value} {item : Value} {s : String} (mem : item ∈ items)
      (holds : HoldsText item s) : HoldsText (.list items) s
  | name {members : Members} {s : String} {value : Value} (mem : (.text s, value) ∈ members) :
      HoldsText (.map members) s
  | member {members : Members} {key : Scalar} {value : Value} {s : String}
      (mem : (key, value) ∈ members) (holds : HoldsText value s) : HoldsText (.map members) s

namespace Value

variable {value : Value} {s : String}

theorem holdsText_list_iff {items : List Value} :
    HoldsText (.list items) s ↔ ∃ item ∈ items, item.HoldsText s := by
  constructor
  · intro h
    cases h with
    | item mem holds => exact ⟨_, mem, holds⟩
  · rintro ⟨item, mem, holds⟩
    exact .item mem holds

theorem holdsText_map_iff {members : Members} :
    HoldsText (.map members) s
      ↔ ∃ member ∈ members, member.1 = .text s ∨ member.2.HoldsText s := by
  constructor
  · intro h
    cases h with
    | name mem => exact ⟨_, mem, .inl rfl⟩
    | member mem holds => exact ⟨_, mem, .inr holds⟩
  · rintro ⟨⟨key, value⟩, mem, hname | holds⟩
    · obtain rfl : key = .text s := hname
      exact .name mem
    · exact .member mem holds

/-- **The texts in the document of a JSON value** are those that the value holds. -/
theorem IsJson.stands_iff (h : value.IsJson) {around : List Nat} {room : Nat}
    {document : Json.Document}
    (hdocument : Json.Document.ofValueIn around room value = .ok document)
    (behind : List Char) : Json.Stands s (document.strings behind) ↔ value.HoldsText s := by
  induction h generalizing room document behind with
  | @scalar scalar json =>
    rw [Json.Document.ofValueIn, if_pos (Scalar.isWritable_of_isJson json)] at hdocument
    cases hdocument
    rw [Json.Document.strings]
    cases scalar with
    | text t =>
      refine Json.stands_cons.trans ((or_iff_left ?_).trans ⟨?_, ?_⟩)
      · rintro ⟨_, hmem⟩
        exact absurd hmem List.not_mem_nil
      · rintro rfl
        exact .text t
      · intro hholds
        cases hholds
        rfl
    | octets _ | time _ => exact absurd json Bool.false_ne_true
    | _ =>
      -- every other scalar stands without quotes
      refine iff_of_false ?_ ?_
      · rintro ⟨_, hmem⟩
        exact absurd hmem List.not_mem_nil
      · intro hholds
        cases hholds
  | list _ ih =>
    obtain ⟨room, documents, hdocuments, rfl⟩ := Json.exists_ofItems_of_list hdocument
    rw [Json.Document.strings, holdsText_list_iff]
    exact Json.stands_itemStrings_iff (·.HoldsText s)
      (fun item hmem d behind hd => ih item hmem hd behind) hdocuments _
  | map _ texts _ ih =>
    obtain ⟨room, documents, hdocuments, rfl⟩ := Json.exists_ofMembers_of_map hdocument
    rw [Json.Document.strings, holdsText_map_iff]
    exact Json.stands_memberStrings_iff (·.HoldsText s) texts
      (fun member hmem d behind hd => ih member hmem hd behind) hdocuments _

/-- **What is found in the JSON text of a value**, which has one unless it is too deep, when its
texts keep their expressions to themselves: the ASCII placeholders of the texts that it holds. These
are all their placeholders when no name in them goes beyond ASCII, and only then. -/
theorem IsJson.placeholders_exact (h : value.IsJson) :
    ((∃ document, Json.Document.ofValue value = .ok document)
      ↔ value.depth ≤ Json.maxWrittenDepth)
    ∧ ∀ document, Json.Document.ofValue value = .ok document →
      Json.write value = .ok document.text
      ∧ (document.KeepsExpressions →
        (∀ name, name ∈ Text.placeholders document.text
          ↔ Text.isAscii name = true ∧ ∃ s, value.HoldsText s ∧ name ∈ Text.placeholders s.toList)
        ∧ ((∀ name, name ∈ Text.placeholders document.text
            ↔ ∃ s, value.HoldsText s ∧ name ∈ Text.placeholders s.toList)
          ↔ ∀ s, value.HoldsText s → ∀ name ∈ Text.placeholders s.toList,
            Text.isAscii name = true)) := by
  refine ⟨h.exists_ofValue_iff, fun document hdocument => ?_⟩
  refine ⟨Outcome.map_eq_ok_iff.2 ⟨document, hdocument, rfl⟩, fun hkeeps => ?_⟩
  have hfound : ∀ name, name ∈ Text.placeholders document.text
      ↔ Text.isAscii name = true
        ∧ ∃ s, value.HoldsText s ∧ name ∈ Text.placeholders s.toList := by
    intro name
    rw [Json.placeholders_document hkeeps, List.mem_flatMap]
    constructor
    · rintro ⟨⟨s, behind⟩, hmem, hname⟩
      obtain ⟨hname, hascii⟩ := List.mem_filter.1 hname
      exact ⟨hascii, s, (h.stands_iff hdocument []).1 ⟨behind, hmem⟩, hname⟩
    · rintro ⟨hascii, s, hholds, hname⟩
      obtain ⟨behind, hmem⟩ := (h.stands_iff hdocument []).2 hholds
      exact ⟨(s, behind), hmem, List.mem_filter.2 ⟨hname, hascii⟩⟩
  refine ⟨hfound, ?_, ?_⟩
  · intro hall s hholds name hname
    exact ((hfound name).1 ((hall name).2 ⟨s, hholds, hname⟩)).1
  · intro hascii name
    rw [hfound]
    exact and_iff_right_of_imp fun ⟨s, hholds, hname⟩ => hascii s hholds name hname

/-- Headers with a placeholder in a mapping of their own. -/
def tokenHeaders : Value :=
  .map [(.text "auth", .map [(.text "X-Token", .text "\x7btoken\x7d")])]

theorem isJson_tokenHeaders : tokenHeaders.IsJson := by
  have hinner : IsJson (.map [(.text "X-Token", .text "\x7btoken\x7d")]) :=
    .map (by decide) (by simp) (by simpa using .scalar rfl)
  exact .map (by decide) (by simp) (by simpa using hinner)

def tokenDocument : Json.Document :=
  .object [("auth", .object [("X-Token", .scalar (.text "\x7btoken\x7d"))])]

/-- The text of these headers ends in two closing braces, but none of their texts is left open. -/
theorem placeholders_exact_tokenHeaders :
    tokenHeaders.IsJson
    ∧ ∃ document, Json.Document.ofValue tokenHeaders = .ok document ∧ document.KeepsExpressions
      ∧ ∀ name, name ∈ Text.placeholders document.text
        ↔ ∃ s, tokenHeaders.HoldsText s ∧ name ∈ Text.placeholders s.toList := by
  have hstated : Json.Document.ofValue tokenHeaders = .ok tokenDocument := rfl
  obtain ⟨-, hexact⟩ := isJson_tokenHeaders.placeholders_exact.2 tokenDocument hstated
  have hopens : ∀ string ∈ tokenDocument.strings [],
      ¬ Text.opening <:+: string.1.toList := by decide
  have hascii : ∀ string ∈ tokenDocument.strings [],
      ∀ name ∈ (Text.bracedNames string.1.toList).map String.ofList,
        Text.isAscii name = true := by decide
  have hkeeps : tokenDocument.KeepsExpressions :=
    fun string hmem hleft => absurd hleft (Text.not_leavesOpen (hopens string hmem))
  refine ⟨isJson_tokenHeaders, _, hstated, hkeeps,
    (hexact hkeeps).2.2 fun s hholds name hname => ?_⟩
  obtain ⟨behind, hmem⟩ := (isJson_tokenHeaders.stands_iff hstated []).2 hholds
  rw [Text.placeholders_of_not_opening (hopens _ hmem)] at hname
  exact hascii _ hmem name hname

/-- In a JSON text a name beyond ASCII is escaped, so the text has not the placeholder. -/
theorem placeholders_not_exact :
    ¬ ∀ (value : Value) (text : List Char), value.IsJson → Json.write value = .ok text →
      ∀ name, name ∈ Text.placeholders text
        ↔ ∃ s, value.HoldsText s ∧ name ∈ Text.placeholders s.toList := by
  intro hall
  have hjson : IsJson (.map [(.text "X", .text "\x7bgröße\x7d")]) :=
    .map (by decide) (by simp) (by simpa using .scalar rfl)
  have hexact := hall _ "\x7b\"X\": \"\x7bgr\\u00f6\\u00dfe\x7d\"\x7d".toList hjson rfl
  have hnone : Text.placeholders "\x7b\"X\": \"\x7bgr\\u00f6\\u00dfe\x7d\"\x7d".toList = [] := by
    rw [Text.placeholders_of_not_opening (by decide)]
    decide
  have hheld : "größe" ∈ Text.placeholders "\x7bgröße\x7d".toList := by
    rw [Text.placeholders_of_not_opening (by decide)]
    decide
  have hfound := (hexact "größe").2 ⟨_, .member (List.mem_singleton_self _) (.text _), hheld⟩
  rw [hnone] at hfound
  exact absurd hfound List.not_mem_nil

end Value

end FlowLint
