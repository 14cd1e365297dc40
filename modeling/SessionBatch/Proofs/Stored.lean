import SessionBatch.Proofs.Extent

namespace SessionBatch.Json

def chars (text : List Char) : List Glyph := text.map .char

@[simp] theorem chars_nil : chars [] = [] := rfl

@[simp] theorem chars_cons (c : Char) (text : List Char) :
    chars (c :: text) = .char c :: chars text := rfl

@[simp] theorem chars_append (text rest : List Char) :
    chars (text ++ rest) = chars text ++ chars rest := List.map_append

theorem chars_inj {text other : List Char} : chars text = chars other ↔ text = other :=
  List.map_inj_right fun _ _ => Glyph.char.inj

def Clean (text : List Glyph) : Prop := ∀ b, Glyph.stray b ∉ text

@[simp] theorem clean_nil : Clean [] := by simp [Clean]

@[simp] theorem clean_chars (text : List Char) : Clean (chars text) := by simp [Clean, chars]

@[simp] theorem clean_char {c : Char} {text : List Glyph} :
    Clean (.char c :: text) ↔ Clean text := by simp [Clean]

@[simp] theorem not_clean_stray {b : UInt8} {text : List Glyph} :
    ¬ Clean (.stray b :: text) := fun clean => clean b List.mem_cons_self

@[simp] theorem clean_append {text rest : List Glyph} :
    Clean (text ++ rest) ↔ Clean text ∧ Clean rest := by
  simp [Clean, forall_and]

-- The grammar of stored texts. The rest of a string with its closing quote: a byte that belongs to
-- no character stands for itself.
inductive Spread : List Piece → List Glyph → Prop where
  | close : Spread [] [.char '"']
  | piece {p : Piece} {ps : List Piece} {front : List Char} {text : List Glyph}
      (first : Exactly (Spelling p) front) (more : Spread ps text) :
      Spread (p :: ps) (chars front ++ text)
  | stray {ps : List Piece} {text : List Glyph} (b : UInt8) (more : Spread ps text) :
      Spread (.plain (.stray b) :: ps) (.stray b :: text)

inductive Titled (ps : List Piece) : List Glyph → Prop where
  | key {before after : List Char} {text : List Glyph} (leading : Exactly Blanks before)
      (key : Spread ps text) (colon : Exactly Blanks after) :
      Titled ps (chars before ++ .char '"' :: (text ++ chars (after ++ [':'])))

inductive Stands : Part → List Glyph → Prop where
  | plain {node : Node} {front : List Char} (form : Exactly (Front (.value node)) front) :
      Stands (.value node) (chars front)
  | string {ps : List Piece} {text : List Glyph} (pieces : Spread ps text) :
      Stands (.value (.string ⟨ps, none⟩)) (.char '"' :: text)
  | array {nodes : List Node} {text : List Glyph} (items : Stands (.items nodes) text) :
      Stands (.value (.array nodes none)) (.char '[' :: (text ++ [.char ']']))
  | object {ms : List (Quoted × Node)} {text : List Glyph} (members : Stands (.members ms) text) :
      Stands (.value (.object ms none)) (.char '\x7b' :: (text ++ [.char '\x7d']))
  | spaced {node : Node} {before after : List Char} {text : List Glyph}
      (leading : Exactly Blanks before) (value : Stands (.value node) text)
      (trailing : Exactly Blanks after) :
      Stands (.spaced node) (chars before ++ (text ++ chars after))
  | lastItem {node : Node} {text : List Glyph} (item : Stands (.spaced node) text) :
      Stands (.items [node]) text
  | nextItem {node : Node} {nodes : List Node} {text others : List Glyph}
      (item : Stands (.spaced node) text) (more : Stands (.items nodes) others) :
      Stands (.items (node :: nodes)) (text ++ .char ',' :: others)
  | lastMember {ps : List Piece} {node : Node} {title text : List Glyph} (key : Titled ps title)
      (value : Stands (.spaced node) text) :
      Stands (.members [(⟨ps, none⟩, node)]) (title ++ text)
  | nextMember {ps : List Piece} {node : Node} {ms : List (Quoted × Node)}
      {title text others : List Glyph} (key : Titled ps title) (value : Stands (.spaced node) text)
      (more : Stands (.members ms) others) :
      Stands (.members ((⟨ps, none⟩, node) :: ms)) (title ++ (text ++ .char ',' :: others))

theorem Spread.exactly {ps : List Piece} {text : List Glyph} (spread : Spread ps text)
    (clean : Clean text) : ∃ front, text = chars front ∧ Exactly (Spellings ps) front := by
  induction spread with
  | close => exact ⟨['"'], rfl, .close⟩
  | @piece _ _ front _ first _ ih =>
    obtain ⟨others, rfl, more⟩ := ih (clean_append.1 clean).2
    exact ⟨front ++ others, (chars_append _ _).symm, first.spellings more⟩
  | stray => exact absurd clean not_clean_stray

theorem Titled.exactly {ps : List Piece} {title : List Glyph} (titled : Titled ps title)
    (clean : Clean title) : ∃ front, title = chars front ∧ Exactly (Heading ps) front := by
  cases titled with
  | key leading key colon =>
    simp only [clean_append, clean_char] at clean
    obtain ⟨front, rfl, spelled⟩ := key.exactly clean.2.1
    exact ⟨_, by simp, leading.heading spelled colon⟩

theorem Stands.exactly {part : Part} {text : List Glyph} (stands : Stands part text)
    (clean : Clean text) : ∃ front, text = chars front ∧ Exactly (Front part) front := by
  induction stands with
  | plain form => exact ⟨_, rfl, form⟩
  | string pieces =>
    obtain ⟨front, rfl, spelled⟩ := pieces.exactly (clean_char.1 clean)
    exact ⟨'"' :: front, rfl, .string spelled⟩
  | array _ ih =>
    simp only [clean_append, clean_char] at clean
    obtain ⟨front, rfl, items⟩ := ih clean.1
    exact ⟨_, by simp, items.array⟩
  | object _ ih =>
    simp only [clean_append, clean_char] at clean
    obtain ⟨front, rfl, members⟩ := ih clean.1
    exact ⟨_, by simp, members.object⟩
  | spaced leading _ trailing ih =>
    simp only [clean_append] at clean
    obtain ⟨front, rfl, value⟩ := ih clean.2.1
    exact ⟨_, by simp, leading.spaced value trailing⟩
  | lastItem _ ih =>
    obtain ⟨front, rfl, item⟩ := ih clean
    exact ⟨front, rfl, item.item⟩
  | nextItem _ _ ih ih' =>
    simp only [clean_append, clean_char] at clean
    obtain ⟨front, rfl, item⟩ := ih clean.1
    obtain ⟨others, rfl, more⟩ := ih' clean.2
    exact ⟨_, by simp, item.item.items more⟩
  | lastMember key _ ih =>
    obtain ⟨title, rfl, heading⟩ := key.exactly (clean_append.1 clean).1
    obtain ⟨front, rfl, value⟩ := ih (clean_append.1 clean).2
    exact ⟨_, by simp, heading.member value⟩
  | nextMember key _ _ ih ih' =>
    simp only [clean_append, clean_char] at clean
    obtain ⟨title, rfl, heading⟩ := key.exactly clean.1
    obtain ⟨front, rfl, value⟩ := ih clean.2.1
    obtain ⟨others, rfl, more⟩ := ih' clean.2.2
    exact ⟨_, by simp, (heading.member value).members more⟩

section Blank

variable {before : List Char} {text : List Glyph}

theorem Titled.blank {ps : List Piece} (blanks : Exactly Blanks before) (titled : Titled ps text) :
    Titled ps (chars before ++ text) := by
  cases titled with
  | key leading key colon =>
    rw [← List.append_assoc, ← chars_append]
    exact .key (blanks.blanks leading) key colon

theorem Stands.spaced_blank {node : Node} (blanks : Exactly Blanks before)
    (stands : Stands (.spaced node) text) : Stands (.spaced node) (chars before ++ text) := by
  cases stands with
  | spaced leading value trailing =>
    rw [← List.append_assoc, ← chars_append]
    exact .spaced (blanks.blanks leading) value trailing

theorem Stands.items_blank {nodes : List Node} (blanks : Exactly Blanks before)
    (stands : Stands (.items nodes) text) : Stands (.items nodes) (chars before ++ text) := by
  cases stands with
  | lastItem item => exact .lastItem (item.spaced_blank blanks)
  | nextItem item more =>
    rw [← List.append_assoc]
    exact .nextItem (item.spaced_blank blanks) more

theorem Stands.members_blank {ms : List (Quoted × Node)} (blanks : Exactly Blanks before)
    (stands : Stands (.members ms) text) : Stands (.members ms) (chars before ++ text) := by
  cases stands with
  | lastMember key value =>
    rw [← List.append_assoc]
    exact .lastMember (key.blank blanks) value
  | nextMember key value more =>
    rw [← List.append_assoc]
    exact .nextMember (key.blank blanks) value more

end Blank
end SessionBatch.Json
