import SessionBatch.Proofs.Parsing
import Mathlib.Data.List.DropRight

namespace SessionBatch.Json

theorem word_sound {value node : Node} {cs : List Char} {text left : List Glyph}
    (read : word value cs text = (node, left)) (whole : node.fault? = none) :
    node = value ∧ text = chars cs ++ left := by
  induction cs generalizing text with
  | nil =>
    cases read
    exact ⟨rfl, rfl⟩
  | cons c cs ih =>
    cases text with
    | nil =>
      cases read
      cases whole
    | cons g text =>
      rw [word] at read
      split at read
      · next same =>
        obtain ⟨value, rest⟩ := ih read
        exact ⟨value, by rw [same, rest]; rfl⟩
      · cases read
        cases whole

structure Sound (fuel : Nat) : Prop where
  value {text : List Glyph} {node : Node} {left : List Glyph}
    (read : scanValue fuel text = (node, left)) (whole : node.fault? = none) :
    ∃ before front, Exactly Blanks before ∧ Stands (.value node) front ∧
      text = chars before ++ (front ++ left)
  items {text : List Glyph} {nodes : List Node} {left : List Glyph}
    (read : scanItems fuel text = (nodes, none, left)) :
    ∃ front, Stands (.items nodes) front ∧ text = front ++ .char ']' :: left
  members {text : List Glyph} {ms : List (Quoted × Node)} {left : List Glyph}
    (read : scanMembers fuel text = (ms, none, left)) :
    ∃ front, Stands (.members ms) front ∧ text = front ++ .char '\x7d' :: left

namespace Sound

variable {fuel : Nat} {text left : List Glyph}

theorem spaced (sound : Sound fuel) {node : Node} (read : scanValue fuel text = (node, left))
    (whole : node.fault? = none) :
    ∃ front, Stands (.spaced node) front ∧ text = front ++ skipSpace left := by
  obtain ⟨before, front, leading, value, rfl⟩ := sound.value read whole
  obtain ⟨after, trailing, skipped⟩ := skipSpace_sound left
  refine ⟨_, .spaced leading value trailing, ?_⟩
  rw [List.append_assoc, List.append_assoc, ← skipped]

theorem array_step (sound : Sound fuel) {node : Node} (whole : node.fault? = none)
    (read : (match skipSpace text with
      | [] => (.array [] (some .ended), [])
      | .char ']' :: rest => (.array [] none, rest)
      | rest =>
        let (items, fault, left) := scanItems fuel rest
        (.array items fault, left)) = (node, left)) :
    ∃ front, Stands (.value node) front ∧ .char '[' :: text = front ++ left := by
  obtain ⟨inner, blanks, skipped⟩ := skipSpace_sound text
  split at read
  · cases read
    cases whole
  · next rest same =>
    cases read
    exact ⟨_, .plain (.emptyArray blanks), by rw [skipped, same]; simp⟩
  · cases found : scanItems fuel (skipSpace text) with
    | mk nodes more =>
      obtain ⟨fault, left'⟩ := more
      rw [found] at read
      cases read
      cases whole
      obtain ⟨front, items, behind⟩ := sound.items found
      exact ⟨_, .array (items.items_blank blanks), by rw [skipped, behind]; simp⟩

theorem object_step (sound : Sound fuel) {node : Node} (whole : node.fault? = none)
    (read : (match skipSpace text with
      | [] => (.object [] (some .ended), [])
      | .char '\x7d' :: rest => (.object [] none, rest)
      | rest =>
        let (members, fault, left) := scanMembers fuel rest
        (.object members fault, left)) = (node, left)) :
    ∃ front, Stands (.value node) front ∧ .char '\x7b' :: text = front ++ left := by
  obtain ⟨inner, blanks, skipped⟩ := skipSpace_sound text
  split at read
  · cases read
    cases whole
  · next rest same =>
    cases read
    exact ⟨_, .plain (.emptyObject blanks), by rw [skipped, same]; simp⟩
  · cases found : scanMembers fuel (skipSpace text) with
    | mk ms more =>
      obtain ⟨fault, left'⟩ := more
      rw [found] at read
      cases read
      cases whole
      obtain ⟨front, members, behind⟩ := sound.members found
      exact ⟨_, .object (members.members_blank blanks), by rw [skipped, behind]; simp⟩

theorem value_step (sound : Sound fuel) {node : Node}
    (read : scanValue (fuel + 1) text = (node, left)) (whole : node.fault? = none) :
    ∃ before front, Exactly Blanks before ∧ Stands (.value node) front ∧
      text = chars before ++ (front ++ left) := by
  obtain ⟨blanks, leading, skipped⟩ := skipSpace_sound text
  rw [scanValue] at read
  suffices found : ∃ front, Stands (.value node) front ∧ skipSpace text = front ++ left by
    obtain ⟨front, value, same⟩ := found
    exact ⟨blanks, front, leading, value, skipped.trans (congrArg (chars blanks ++ ·) same)⟩
  generalize skipSpace text = solid at read ⊢
  split at read
  · cases read
    cases whole
  · cases read
    cases whole
  · next c text =>
    split at read
    · next same =>
      subst same
      exact array_step sound whole read
    split at read
    · next same =>
      subst same
      exact object_step sound whole read
    split at read
    · next same =>
      subst same
      cases found : quoted text with
      | mk q left' =>
        rw [found] at read
        cases read
        obtain ⟨front, pieces, rfl⟩ := quoted_sound found whole
        obtain ⟨ps, fault⟩ := q
        cases whole
        exact ⟨_, .string pieces, rfl⟩
    split at read
    · next same =>
      subst same
      obtain ⟨rfl, rfl⟩ := word_sound read whole
      exact ⟨_, .plain .null, rfl⟩
    split at read
    · next same =>
      subst same
      obtain ⟨rfl, rfl⟩ := word_sound read whole
      exact ⟨_, .plain .yes, rfl⟩
    split at read
    · next same =>
      subst same
      obtain ⟨rfl, rfl⟩ := word_sound read whole
      exact ⟨_, .plain .no, rfl⟩
    split at read
    · split at read
      · next l left' found =>
        cases read
        obtain ⟨front, numeral, same⟩ := number_sound found
        exact ⟨_, .plain numeral.number, same⟩
      · cases read
        cases whole
    · cases read
      cases whole

theorem items_step (sound : Sound fuel) {nodes : List Node}
    (read : scanItems (fuel + 1) text = (nodes, none, left)) :
    ∃ front, Stands (.items nodes) front ∧ text = front ++ .char ']' :: left := by
  cases found : scanValue fuel text with
  | mk item left' =>
    rw [scanItems, found] at read
    dsimp only at read
    split at read
    · cases read
    · next whole =>
      obtain ⟨front, spaced, rfl⟩ := sound.spaced found whole
      split at read
      · cases read
      · next same =>
        cases read
        exact ⟨front, .lastItem spaced, by rw [same]⟩
      · next next same =>
        cases others : scanItems fuel next with
        | mk items more =>
          obtain ⟨fault, left'⟩ := more
          rw [others] at read
          cases read
          obtain ⟨behind, items, rfl⟩ := sound.items others
          exact ⟨_, .nextItem spaced items, by rw [same]; simp⟩
      · cases read

theorem members_step (sound : Sound fuel) {ms : List (Quoted × Node)}
    (read : scanMembers (fuel + 1) text = (ms, none, left)) :
    ∃ front, Stands (.members ms) front ∧ text = front ++ .char '\x7d' :: left := by
  obtain ⟨before, leading, skipped⟩ := skipSpace_sound text
  rw [scanMembers] at read
  split at read
  · cases read
  · next named opened =>
    rw [opened] at skipped
    cases name : quoted named with
    | mk key left' =>
      rw [name] at read
      dsimp only at read
      split at read
      · cases read
      · next closed =>
        obtain ⟨front, pieces, rfl⟩ := quoted_sound name closed
        obtain ⟨ps, fault⟩ := key
        cases closed
        obtain ⟨after, colon, skippedKey⟩ := skipSpace_sound left'
        split at read
        · cases read
        · next content same =>
          rw [same] at skippedKey
          have title := Titled.key leading pieces colon
          cases found : scanValue fuel content with
          | mk node left' =>
            rw [found] at read
            dsimp only at read
            split at read
            · cases read
            · next whole =>
              obtain ⟨value, spaced, rfl⟩ := sound.spaced found whole
              split at read
              · cases read
              · next same =>
                cases read
                refine ⟨_, .lastMember title spaced, ?_⟩
                rw [skipped, skippedKey, same]
                simp
              · next next same =>
                cases others : scanMembers fuel next with
                | mk ms more =>
                  obtain ⟨fault, left'⟩ := more
                  rw [others] at read
                  cases read
                  obtain ⟨behind, members, rfl⟩ := sound.members others
                  refine ⟨_, .nextMember title spaced members, ?_⟩
                  rw [skipped, skippedKey, same]
                  simp
              · cases read
        · cases read
  · cases read

end Sound

-- On the fuel: what stands in brackets, and what follows a comma, is read with a step less.
theorem sound (fuel : Nat) : Sound fuel := by
  induction fuel with
  | zero =>
    constructor
    · intro text node left read whole
      cases read
      cases whole
    · intro text nodes left read
      cases read
    · intro text ms left read
      cases read
  | succ fuel ih => exact ⟨ih.value_step, ih.items_step, ih.members_step⟩

section Fronts

variable {text solid rest : List Char}

theorem Numeral.front {l : Literal} (numeral : Numeral l text rest) :
    ∃ c others, text = c :: others ∧ (c = '-' ∨ isDigit (.char c) = true) := by
  cases numeral with
  | @parts unsigned point mark _ minus whole =>
    generalize l.negative = negative at minus
    cases minus with
    | minus => exact ⟨'-', unsigned, rfl, .inl rfl⟩
    | absent =>
      generalize l.whole = ds at whole
      cases whole with
      | zero => exact ⟨'0', point, rfl, .inr rfl⟩
      | digits _ written =>
        obtain ⟨c, others, same, digit⟩ := written.front
        exact ⟨c, others, same, .inr digit⟩

theorem number_apart {c : Char} (front : c = '-' ∨ isDigit (.char c) = true) :
    c ∉ ['[', '\x7b', '"', 'n', 't', 'f', ']'] ∧ isSpace (.char c) = false := by
  rcases front with rfl | digit
  · decide
  · constructor
    · intro member
      simp only [List.mem_cons, List.not_mem_nil, or_false] at member
      rcases member with rfl | rfl | rfl | rfl | rfl | rfl | rfl <;> cases digit
    · cases space : isSpace (.char c) with
      | false => rfl
      | true =>
        have blank := isSpace_iff.1 space
        simp only [List.mem_cons, List.not_mem_nil, or_false] at blank
        rcases blank with rfl | rfl | rfl | rfl <;> cases digit

theorem Front.starts {node : Node} (front : Front (.value node) solid rest) :
    ∃ c others, solid = c :: others ∧ isSpace (.char c) = false ∧ c ≠ ']' := by
  cases front with
  | number numeral =>
    obtain ⟨c, others, rfl, starts⟩ := numeral.front
    obtain ⟨apart, space⟩ := number_apart starts
    refine ⟨c, others, rfl, space, ?_⟩
    rintro rfl
    simp at apart
  | _ => exact ⟨_, _, rfl, rfl, by decide⟩

theorem Front.skipSpace_value {node : Node} (front : Front (.value node) solid rest)
    (blanks : Blanks text solid) : skipSpace (chars text) = chars solid := by
  obtain ⟨c, others, rfl, space, _⟩ := front.starts
  refine blanks.skipSpace ?_
  rintro _ ⟨⟩
  exact space

theorem Front.skipSpace_spaced {node : Node} (front : Front (.spaced node) text rest) :
    ∃ c others, skipSpace (chars text) = chars (c :: others) ∧ c ≠ ']' ∧
      rest.length < (c :: others).length := by
  cases front with
  | spaced before value after =>
    obtain ⟨c, others, rfl, _, bracket⟩ := value.starts
    exact ⟨c, others, value.skipSpace_value before, bracket,
      Nat.lt_of_le_of_lt after.length_le value.length_lt⟩

theorem Front.skipSpace_items {nodes : List Node} (front : Front (.items nodes) text rest) :
    ∃ c others, skipSpace (chars text) = chars (c :: others) ∧ c ≠ ']' := by
  cases front with
  | lastItem item | nextItem item =>
    obtain ⟨c, others, skipped, bracket, _⟩ := item.skipSpace_spaced
    exact ⟨c, others, skipped, bracket⟩

theorem Front.skipSpace_members {ms : List (Quoted × Node)}
    (front : Front (.members ms) text rest) :
    ∃ others, skipSpace (chars text) = chars ('"' :: others) := by
  cases front with
  | lastMember before | nextMember before => exact ⟨_, before.skipSpace (by simp [isSpace])⟩

theorem length_skipped (skipped : skipSpace (chars text) = chars solid) :
    solid.length ≤ text.length :=
  calc solid.length = (chars solid).length := List.length_map _ |>.symm
    _ = (skipSpace (chars text)).length := by rw [skipped]
    _ ≤ (chars text).length := (List.dropWhile_suffix isSpace).length_le
    _ = text.length := List.length_map _

end Fronts

-- What the scanner makes of a part, whatever blanks stand before it, where it may read on for as
-- long as the part is.
def Part.Scanned : Part → List Char → List Char → Prop
  | .value node, solid, rest => ∀ fuel text, skipSpace (chars text) = chars solid → Closes rest →
      text.length ≤ rest.length + fuel →
      scanValue fuel (chars text) = (node, chars rest) ∧ node.fault? = none
  | .spaced node, start, rest => ∀ fuel text, skipSpace (chars text) = skipSpace (chars start) →
      Stops rest → text.length ≤ rest.length + fuel →
      ∃ behind, scanValue fuel (chars text) = (node, behind) ∧ node.fault? = none ∧
        skipSpace behind = chars rest
  | .items nodes, start, behind => ∀ fuel text rest, behind = ']' :: rest →
      skipSpace (chars text) = skipSpace (chars start) → text.length ≤ rest.length + fuel →
      scanItems fuel (chars text) = (nodes, none, chars rest)
  | .members ms, start, behind => ∀ fuel text rest, behind = '\x7d' :: rest →
      skipSpace (chars text) = skipSpace (chars start) → text.length ≤ rest.length + fuel →
      scanMembers fuel (chars text) = (ms, none, chars rest)

namespace Part.Scanned

variable {text solid rest : List Char} {node : Node}

theorem step {fuel : Nat} (taken : rest.length < solid.length)
    (skipped : skipSpace (chars text) = chars solid) (room : text.length ≤ rest.length + fuel) :
    ∃ less, fuel = less + 1 := by
  have long := length_skipped skipped
  exact Nat.exists_eq_succ_of_ne_zero (by omega)

theorem spaced_step {start : List Char} {fuel : Nat} (front : Front (.spaced node) start rest)
    (skipped : skipSpace (chars text) = skipSpace (chars start))
    (room : text.length ≤ rest.length + fuel) :
    rest.length < text.length ∧ ∃ less, fuel = less + 1 := by
  obtain ⟨c, others, inner, _, taken⟩ := front.skipSpace_spaced
  rw [inner] at skipped
  exact ⟨Nat.lt_of_lt_of_le taken (length_skipped skipped), step taken skipped room⟩

theorem number {l : Literal} (numeral : Numeral l solid rest) :
    (Part.value (.number l)).Scanned solid rest := by
  intro fuel text skipped closes room
  obtain ⟨fuel, rfl⟩ := step numeral.length_lt skipped room
  have found := numeral.scanned closes
  obtain ⟨c, others, rfl, starts⟩ := numeral.front
  have apart := (number_apart starts).1
  simp only [List.mem_cons, List.not_mem_nil, or_false, not_or] at apart
  obtain ⟨array, object, string, null, yes, no, _⟩ := apart
  rw [scanValue, skipped]
  dsimp only [chars_cons]
  rw [if_neg array, if_neg object, if_neg string, if_neg null, if_neg yes, if_neg no,
    if_pos starts, ← chars_cons, found]
  exact ⟨rfl, rfl⟩

theorem string {ps : List Piece} (spellings : Spellings ps solid rest) :
    (Part.value (.string ⟨ps, none⟩)).Scanned ('"' :: solid) rest := by
  intro fuel text skipped closes room
  obtain ⟨fuel, rfl⟩ := step (Nat.lt_succ_of_lt spellings.length_lt) skipped room
  rw [scanValue, skipped]
  simp [spellings.scanned, Node.fault?]

theorem emptyArray (blanks : Blanks solid (']' :: rest)) :
    (Part.value (.array [] none)).Scanned ('[' :: solid) rest := by
  intro fuel text skipped closes room
  obtain ⟨fuel, rfl⟩ := step (Front.emptyArray blanks).length_lt skipped room
  have inner := blanks.skipSpace (by simp [isSpace])
  rw [scanValue, skipped]
  simp [inner, Node.fault?]

theorem emptyObject (blanks : Blanks solid ('\x7d' :: rest)) :
    (Part.value (.object [] none)).Scanned ('\x7b' :: solid) rest := by
  intro fuel text skipped closes room
  obtain ⟨fuel, rfl⟩ := step (Front.emptyObject blanks).length_lt skipped room
  have inner := blanks.skipSpace (by simp [isSpace])
  rw [scanValue, skipped]
  simp [inner, Node.fault?]

theorem array {nodes : List Node} (front : Front (.items nodes) solid (']' :: rest))
    (items : (Part.items nodes).Scanned solid (']' :: rest)) :
    (Part.value (.array nodes none)).Scanned ('[' :: solid) rest := by
  intro fuel text skipped closes room
  obtain ⟨fuel, rfl⟩ := step (Front.array front).length_lt skipped room
  obtain ⟨c, others, inner, bracket⟩ := front.skipSpace_items
  have long := length_skipped skipped
  have shorter := length_skipped inner
  simp only [List.length_cons] at long shorter
  have again : skipSpace (chars (c :: others)) = skipSpace (chars solid) := by
    rw [← inner]
    exact List.dropWhile_idempotent isSpace _
  have found := items fuel (c :: others) rest rfl again (by simp only [List.length_cons]; omega)
  rw [scanValue, skipped]
  simp only [chars_cons, ↓reduceIte, inner]
  split
  · next same => cases same
  · next same =>
    cases same
    exact absurd rfl bracket
  · rw [← chars_cons, found]
    exact ⟨rfl, rfl⟩

theorem object {ms : List (Quoted × Node)} (front : Front (.members ms) solid ('\x7d' :: rest))
    (members : (Part.members ms).Scanned solid ('\x7d' :: rest)) :
    (Part.value (.object ms none)).Scanned ('\x7b' :: solid) rest := by
  intro fuel text skipped closes room
  obtain ⟨fuel, rfl⟩ := step (Front.object front).length_lt skipped room
  obtain ⟨others, inner⟩ := front.skipSpace_members
  have long := length_skipped skipped
  have shorter := length_skipped inner
  simp only [List.length_cons] at long shorter
  have again : skipSpace (chars ('"' :: others)) = skipSpace (chars solid) := by
    rw [← inner]
    exact List.dropWhile_idempotent isSpace _
  have found := members fuel ('"' :: others) rest rfl again (by simp only [List.length_cons]; omega)
  rw [chars_cons] at found
  rw [scanValue, skipped]
  simp [inner, found, Node.fault?]

theorem spaced {start behind : List Char} (before : Blanks start solid)
    (front : Front (.value node) solid behind) (after : Blanks behind rest)
    (value : (Part.value node).Scanned solid behind) : (Part.spaced node).Scanned start rest := by
  intro fuel text skipped stops room
  have shorter := after.length_le
  rw [front.skipSpace_value before] at skipped
  obtain ⟨found, whole⟩ := value fuel text skipped ⟨rest, after, stops⟩ (by omega)
  exact ⟨chars behind, found, whole, after.skipSpace stops.solid⟩

theorem lastItem (front : Front (.spaced node) solid rest)
    (item : (Part.spaced node).Scanned solid rest) : (Part.items [node]).Scanned solid rest := by
  rintro fuel text rest rfl skipped room
  have room' : text.length ≤ (']' :: rest).length + fuel := by
    simp only [List.length_cons]
    omega
  obtain ⟨_, fuel, rfl⟩ := spaced_step front skipped room'
  obtain ⟨behind, found, whole, next⟩ := item fuel text skipped (by simp [Stops]) (by
    simp only [List.length_cons]
    omega)
  rw [scanItems, found]
  simp [whole, next]

theorem nextItem {nodes : List Node} {others : List Char}
    (front : Front (.spaced node) solid (',' :: others)) (more : Front (.items nodes) others rest)
    (item : (Part.spaced node).Scanned solid (',' :: others))
    (items : (Part.items nodes).Scanned others rest) :
    (Part.items (node :: nodes)).Scanned solid rest := by
  rintro fuel text rest rfl skipped room
  have shorter := more.length_lt
  simp only [List.length_cons] at shorter
  have room' : text.length ≤ (',' :: others).length + fuel := by
    simp only [List.length_cons]
    omega
  obtain ⟨taken, fuel, rfl⟩ := spaced_step front skipped room'
  simp only [List.length_cons] at taken
  obtain ⟨behind, found, whole, next⟩ := item fuel text skipped (by simp [Stops]) (by
    simp only [List.length_cons]
    omega)
  rw [scanItems, found]
  simp [whole, next, items fuel others rest rfl rfl (by omega)]

theorem lastMember {ps : List Piece} {named behind content : List Char}
    (before : Blanks solid ('"' :: named)) (key : Spellings ps named behind)
    (after : Blanks behind (':' :: content)) (front : Front (.spaced node) content rest)
    (value : (Part.spaced node).Scanned content rest) :
    (Part.members [(⟨ps, none⟩, node)]).Scanned solid rest := by
  rintro fuel text rest rfl skipped room
  have opened := before.skipSpace (by simp [isSpace])
  have colon := after.skipSpace (by simp [isSpace])
  have long := length_skipped (skipped.trans opened)
  have shorter := after.length_le
  have named := key.length_lt
  have taken := front.length_lt
  simp only [List.length_cons] at long shorter taken
  obtain ⟨fuel, rfl⟩ : ∃ less, fuel = less + 1 := Nat.exists_eq_succ_of_ne_zero (by omega)
  obtain ⟨_, found, whole, next⟩ := value fuel content rfl (by simp [Stops]) (by
    simp only [List.length_cons]
    omega)
  rw [scanMembers, skipped, opened]
  simp [key.scanned, colon, found, whole, next]

theorem nextMember {ps : List Piece} {ms : List (Quoted × Node)}
    {named behind content others : List Char} (before : Blanks solid ('"' :: named))
    (key : Spellings ps named behind) (after : Blanks behind (':' :: content))
    (front : Front (.spaced node) content (',' :: others)) (more : Front (.members ms) others rest)
    (value : (Part.spaced node).Scanned content (',' :: others))
    (members : (Part.members ms).Scanned others rest) :
    (Part.members ((⟨ps, none⟩, node) :: ms)).Scanned solid rest := by
  rintro fuel text rest rfl skipped room
  have opened := before.skipSpace (by simp [isSpace])
  have colon := after.skipSpace (by simp [isSpace])
  have long := length_skipped (skipped.trans opened)
  have shorter := after.length_le
  have named := key.length_lt
  have taken := front.length_lt
  have left := more.length_lt
  simp only [List.length_cons] at long shorter taken left
  obtain ⟨fuel, rfl⟩ : ∃ less, fuel = less + 1 := Nat.exists_eq_succ_of_ne_zero (by omega)
  obtain ⟨_, found, whole, next⟩ := value fuel content rfl (by simp [Stops]) (by
    simp only [List.length_cons]
    omega)
  rw [scanMembers, skipped, opened]
  simp [key.scanned, colon, found, whole, next, members fuel others rest rfl rfl (by omega)]

end Part.Scanned

theorem Front.scanned {part : Part} {text rest : List Char} (front : Front part text rest) :
    part.Scanned text rest := by
  induction front with
  | null | yes | no =>
    intro fuel text skipped closes room
    obtain ⟨fuel, rfl⟩ := Part.Scanned.step (by simp only [List.length_cons]; omega) skipped room
    rw [scanValue, skipped]
    exact ⟨rfl, rfl⟩
  | number numeral => exact .number numeral
  | string spellings => exact .string spellings
  | emptyArray blanks => exact .emptyArray blanks
  | array items ih => exact .array items ih
  | emptyObject blanks => exact .emptyObject blanks
  | object members ih => exact .object members ih
  | spaced before value after ih => exact .spaced before value after ih
  | lastItem item ih => exact .lastItem item ih
  | nextItem item more ih ih' => exact .nextItem item more ih ih'
  | lastMember before key after value ih => exact .lastMember before key after value ih
  | nextMember before key after value more ih ih' =>
    exact .nextMember before key after value more ih ih'

theorem scan_sound {text : List Glyph} {tree : Node} (read : scan text = ⟨tree, false⟩)
    (whole : tree.fault? = none) : Stands (.spaced tree) text := by
  cases found : scanValue (fuelFor text) text with
  | mk root left =>
    rw [scan, found] at read
    obtain ⟨rfl, ended⟩ := Document.mk.inj read
    obtain ⟨front, spaced, skipped⟩ := (sound _).spaced found whole
    cases behind : skipSpace left with
    | nil =>
      rw [behind, List.append_nil] at skipped
      rwa [skipped]
    | cons => simp [behind] at ended

theorem scan_iff {text : String} {tree : Node} :
    scan (glyphs text) = ⟨tree, false⟩ ∧ tree.fault? = none ↔ IsText tree text := by
  constructor
  · rintro ⟨read, whole⟩
    obtain ⟨front, same, spaced⟩ := (scan_sound read whole).exactly (clean_chars _)
    rw [← chars_inj.1 same] at spaced
    have document := spaced []
    rwa [List.append_nil] at document
  · intro written
    have room : text.toList.length ≤ ([] : List Char).length + fuelFor (glyphs text) := by
      simp only [fuelFor, glyphs, List.length_map, List.length_nil]
      omega
    obtain ⟨behind, found, whole, ended⟩ :=
      Front.scanned written (fuelFor (glyphs text)) text.toList rfl (by simp [Stops]) room
    refine ⟨?_, whole⟩
    rw [scan]
    have same : glyphs text = chars text.toList := rfl
    rw [same] at found ⊢
    rw [found]
    simp [ended]

theorem IsText.unique {text : String} {tree other : Node} (written : IsText tree text)
    (again : IsText other text) : tree = other := by
  have first := (scan_iff.2 written).1
  rw [(scan_iff.2 again).1] at first
  exact (Document.mk.inj first).1.symm

def Node.Written (node : Node) : Prop := ∃ text rest, Front (.value node) text rest

structure Quoted.Written (key : Quoted) : Prop where
  closed : key.fault = none
  spelled : ∃ text rest, Spellings key.pieces text rest

theorem Node.Written.of_spaced {node : Node} {text rest : List Char}
    (spaced : Front (.spaced node) text rest) : node.Written := by
  cases spaced with
  | spaced before value after => exact ⟨_, _, value⟩

theorem Front.items_written {nodes : List Node} {text rest : List Char}
    (front : Front (.items nodes) text rest) : ∀ node ∈ nodes, node.Written := by
  induction nodes generalizing text with
  | nil => simp
  | cons node nodes ih =>
    cases front with
    | lastItem item => simpa using Node.Written.of_spaced item
    | nextItem item more => exact List.forall_mem_cons.2 ⟨.of_spaced item, ih more⟩

theorem Front.members_written {ms : List (Quoted × Node)} {text rest : List Char}
    (front : Front (.members ms) text rest) : ∀ m ∈ ms, m.1.Written ∧ m.2.Written := by
  induction ms generalizing text with
  | nil => simp
  | cons m ms ih =>
    cases front with
    | lastMember _ key _ value => simpa using ⟨⟨rfl, _, _, key⟩, Node.Written.of_spaced value⟩
    | nextMember _ key _ value more =>
      exact List.forall_mem_cons.2 ⟨⟨⟨rfl, _, _, key⟩, .of_spaced value⟩, ih more⟩

namespace Node.Written

theorem whole {node : Node} (written : node.Written) : node.fault? = none := by
  obtain ⟨_, _, front⟩ := written
  cases front <;> rfl

theorem item {nodes : List Node} {fault : Option Fault}
    (written : (Node.array nodes fault).Written) : ∀ node ∈ nodes, node.Written := by
  obtain ⟨_, _, front⟩ := written
  cases front with
  | emptyArray => simp
  | array items => exact items.items_written

theorem member {ms : List (Quoted × Node)} {fault : Option Fault}
    (written : (Node.object ms fault).Written) : ∀ m ∈ ms, m.1.Written ∧ m.2.Written := by
  obtain ⟨_, _, front⟩ := written
  cases front with
  | emptyObject => simp
  | object members => exact members.members_written

end Node.Written
end SessionBatch.Json
