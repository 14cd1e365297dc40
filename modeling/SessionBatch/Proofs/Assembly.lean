import SessionBatch.Proofs.Nesting

namespace SessionBatch.Json

def Portable (form : List Char → List Char → Prop) : Prop :=
  ∃ front, Exactly form front

section Numerals

variable {text rest : List Char}

theorem Digits.portable {ds : List Nat} (written : Digits ds text rest) : Portable (Digits ds) := by
  induction written with
  | @last c _ digit => exact ⟨[c], fun rest => .last digit rest⟩
  | @more c _ _ _ _ digit _ ih =>
    obtain ⟨front, others⟩ := ih
    exact ⟨c :: front, fun rest => .more digit (others rest)⟩

theorem Whole.portable {ds : List Nat} (written : Whole ds text rest) : Portable (Whole ds) := by
  cases written with
  | zero => exact ⟨['0'], .zero⟩
  | digits nonzero written =>
    obtain ⟨front, digits⟩ := written.portable
    exact ⟨front, fun rest => .digits nonzero (digits rest)⟩

theorem Fraction.portable {fraction : Option (List Nat)} (written : Fraction fraction text rest) :
    Portable (Fraction fraction) := by
  cases written with
  | absent => exact ⟨[], .absent⟩
  | digits written =>
    obtain ⟨front, digits⟩ := written.portable
    exact ⟨'.' :: front, fun rest => .digits (digits rest)⟩

theorem Minus.portable {negative : Bool} (minus : Minus negative text rest) :
    Portable (Minus negative) := by
  cases minus with
  | minus => exact ⟨['-'], .minus⟩
  | absent => exact ⟨[], .absent⟩

theorem Sign.portable {negative : Bool} (sign : Sign negative text rest) :
    Portable (Sign negative) := by
  cases sign with
  | minus => exact ⟨['-'], .minus⟩
  | plus => exact ⟨['+'], .plus⟩
  | absent => exact ⟨[], .absent⟩

theorem Exponent.portable {exponent : Option (Bool × List Nat)}
    (written : Exponent exponent text rest) : Portable (Exponent exponent) := by
  cases written with
  | absent => exact ⟨[], .absent⟩
  | digits mark sign written =>
    obtain ⟨_, sign⟩ := sign.portable
    obtain ⟨_, digits⟩ := written.portable
    exact ⟨_, .exponent mark sign digits⟩

theorem Numeral.portable {l : Literal} (numeral : Numeral l text rest) : Portable (Numeral l) := by
  cases numeral with
  | parts minus whole fraction exponent =>
    obtain ⟨_, minus⟩ := minus.portable
    obtain ⟨_, whole⟩ := whole.portable
    obtain ⟨_, fraction⟩ := fraction.portable
    obtain ⟨_, exponent⟩ := exponent.portable
    exact ⟨_, .numeral minus whole fraction exponent⟩

end Numerals

theorem Spelling.portable {p : Piece} {text rest : List Char} (spelling : Spelling p text rest) :
    Portable (Spelling p) := by
  cases spelling with
  | plain open_ unescaped visible => exact ⟨[_], .plain open_ unescaped visible⟩
  | short escape => exact ⟨['\\', _], .short escape⟩
  | code first second third fourth =>
    exact ⟨['\\', 'u', _, _, _, _], .code first second third fourth⟩

theorem Spellings.portable {ps : List Piece} {text rest : List Char}
    (spellings : Spellings ps text rest) : Portable (Spellings ps) := by
  induction spellings with
  | close => exact ⟨['"'], .close⟩
  | piece first _ ih =>
    obtain ⟨_, first⟩ := first.portable
    obtain ⟨_, more⟩ := ih
    exact ⟨_, .spellings first more⟩

namespace Portable

variable {node : Node} {nodes : List Node} {ps : List Piece} {ms : List (Quoted × Node)}

theorem spaced (value : Portable (Front (.value node))) : Portable (Front (.spaced node)) := by
  obtain ⟨_, value⟩ := value
  exact ⟨_, .spaced .noBlanks value .noBlanks⟩

theorem lastItem (item : Portable (Front (.spaced node))) : Portable (Front (.items [node])) := by
  obtain ⟨_, item⟩ := item
  exact ⟨_, .item item⟩

theorem nextItem (item : Portable (Front (.spaced node)))
    (items : Portable (Front (.items nodes))) :
    Portable (Front (.items (node :: nodes))) := by
  obtain ⟨_, item⟩ := item.lastItem
  obtain ⟨_, more⟩ := items
  exact ⟨_, .items item more⟩

theorem lastMember (key : Portable (Spellings ps)) (value : Portable (Front (.spaced node))) :
    Portable (Front (.members [(⟨ps, none⟩, node)])) := by
  obtain ⟨_, key⟩ := key
  obtain ⟨_, value⟩ := value
  exact ⟨_, .member (.heading .noBlanks key .noBlanks) value⟩

theorem nextMember (key : Portable (Spellings ps)) (value : Portable (Front (.spaced node)))
    (members : Portable (Front (.members ms))) :
    Portable (Front (.members ((⟨ps, none⟩, node) :: ms))) := by
  obtain ⟨_, member⟩ := lastMember key value
  obtain ⟨_, more⟩ := members
  exact ⟨_, .members member more⟩

theorem array (items : Portable (Front (.items nodes))) :
    Portable (Front (.value (.array nodes none))) := by
  obtain ⟨_, items⟩ := items
  exact ⟨_, .array items⟩

theorem object (members : Portable (Front (.members ms))) :
    Portable (Front (.value (.object ms none))) := by
  obtain ⟨_, members⟩ := members
  exact ⟨_, .object members⟩

end Portable

theorem Front.portable {part : Part} {text rest : List Char} (front : Front part text rest) :
    Portable (Front part) := by
  induction front with
  | null => exact ⟨_, .null⟩
  | yes => exact ⟨_, .yes⟩
  | no => exact ⟨_, .no⟩
  | number numeral =>
    obtain ⟨_, numeral⟩ := numeral.portable
    exact ⟨_, .number numeral⟩
  | string spellings =>
    obtain ⟨_, spellings⟩ := spellings.portable
    exact ⟨_, .string spellings⟩
  | emptyArray => exact ⟨_, .emptyArray .noBlanks⟩
  | array _ ih => exact ih.array
  | emptyObject => exact ⟨_, .emptyObject .noBlanks⟩
  | object _ ih => exact ih.object
  | spaced _ _ _ ih => exact ih.spaced
  | lastItem _ ih => exact ih.lastItem
  | nextItem _ _ item more => exact item.nextItem more
  | lastMember _ key _ _ value => exact .lastMember key.portable value
  | nextMember _ key _ _ _ value more => exact .nextMember key.portable value more

namespace Node

variable {nodes : List Node} {ms : List (Quoted × Node)}

theorem written_iff_portable {node : Node} : node.Written ↔ Portable (Front (.value node)) := by
  constructor
  · rintro ⟨_, _, front⟩
    exact front.portable
  · rintro ⟨front, value⟩
    exact ⟨_, [], value []⟩

theorem Written.spaced {node : Node} (written : node.Written) : Portable (Front (.spaced node)) :=
  (written_iff_portable.1 written).spaced

theorem portable_items {node : Node} (written : ∀ item ∈ node :: nodes, item.Written) :
    Portable (Front (.items (node :: nodes))) := by
  induction nodes generalizing node with
  | nil => exact (written node List.mem_cons_self).spaced.lastItem
  | cons next nodes ih =>
    obtain ⟨first, others⟩ := List.forall_mem_cons.1 written
    exact first.spaced.nextItem (ih others)

theorem portable_members {m : Quoted × Node}
    (written : ∀ member ∈ m :: ms, member.1.Written ∧ member.2.Written) :
    Portable (Front (.members (m :: ms))) := by
  induction ms generalizing m with
  | nil =>
    obtain ⟨⟨ps, _⟩, node⟩ := m
    obtain ⟨⟨rfl, _, _, key⟩, value⟩ := written _ List.mem_cons_self
    exact .lastMember key.portable value.spaced
  | cons next ms ih =>
    obtain ⟨first, others⟩ := List.forall_mem_cons.1 written
    obtain ⟨⟨ps, _⟩, node⟩ := m
    obtain ⟨⟨rfl, _, _, key⟩, value⟩ := first
    exact .nextMember key.portable value.spaced (ih others)

theorem written_array_iff : (array nodes none).Written ↔ ∀ node ∈ nodes, node.Written := by
  refine ⟨Written.item, fun items => written_iff_portable.2 ?_⟩
  cases nodes with
  | nil => exact ⟨_, .emptyArray .noBlanks⟩
  | cons node nodes => exact (portable_items items).array

theorem written_object_iff :
    (object ms none).Written ↔ ∀ m ∈ ms, m.1.Written ∧ m.2.Written := by
  refine ⟨Written.member, fun members => written_iff_portable.2 ?_⟩
  cases ms with
  | nil => exact ⟨_, .emptyObject .noBlanks⟩
  | cons m ms => exact (portable_members members).object

theorem Written.exists_text {tree : Node} (written : tree.Written) : ∃ text, IsText tree text := by
  obtain ⟨front, spaced⟩ := written.spaced
  refine ⟨String.ofList front, ?_⟩
  unfold IsText
  rw [String.toList_ofList, ← List.append_nil front]
  exact spaced []

-- A value that stands in some stored text. No more is broken in it than in one that is written.
def Standing (node : Node) : Prop := ∃ text, Stands (.value node) text

theorem Written.standing {node : Node} (written : node.Written) : node.Standing := by
  obtain ⟨_, value⟩ := written_iff_portable.1 written
  exact ⟨_, .plain value⟩

theorem Standing.of_spaced {node : Node} {text : List Glyph}
    (spaced : Stands (.spaced node) text) : node.Standing := by
  cases spaced with
  | spaced _ value _ => exact ⟨_, value⟩

theorem items_standing {text : List Glyph} (stands : Stands (.items nodes) text) :
    ∀ node ∈ nodes, node.Standing := by
  induction nodes generalizing text with
  | nil => simp
  | cons node nodes ih =>
    cases stands with
    | lastItem item => simpa using Standing.of_spaced item
    | nextItem item more => exact List.forall_mem_cons.2 ⟨.of_spaced item, ih more⟩

theorem members_standing {text : List Glyph} (stands : Stands (.members ms) text) :
    ∀ m ∈ ms, m.2.Standing := by
  induction ms generalizing text with
  | nil => simp
  | cons m ms ih =>
    cases stands with
    | lastMember _ value => simpa using Standing.of_spaced value
    | nextMember _ value more => exact List.forall_mem_cons.2 ⟨.of_spaced value, ih more⟩

namespace Standing

theorem whole {node : Node} (standing : node.Standing) : node.fault? = none := by
  obtain ⟨_, stands⟩ := standing
  cases stands with
  | plain form => exact Written.whole ⟨_, _, form []⟩
  | _ => rfl

theorem item {fault : Option Fault} (standing : (array nodes fault).Standing) :
    ∀ node ∈ nodes, node.Standing := by
  obtain ⟨_, stands⟩ := standing
  cases stands with
  | plain form => exact fun node member => (Written.item ⟨_, _, form []⟩ node member).standing
  | array items => exact items_standing items

theorem member {fault : Option Fault} (standing : (object ms fault).Standing) :
    ∀ m ∈ ms, m.2.Standing := by
  obtain ⟨_, stands⟩ := standing
  cases stands with
  | plain form => exact fun m member => (Written.member ⟨_, _, form []⟩ m member).2.standing
  | object members => exact members_standing members

end Standing
end Node
end SessionBatch.Json
