import Mathlib

/-! # DNS messages on the wire

The parts of a DNS message up to its answer section: a header of twelve bytes with the numbers of
the questions and the answers, the questions and the answers. Names are runs of labels that end in
an empty label or in a pointer. -/
namespace Foundation.Dns

abbrev Bytes := List UInt8

/-- A number of two bytes. -/
def word (high low : UInt8) : Nat := high.toNat * 256 + low.toNat

/-- A pointer begins with two set bits. -/
def isPointer (length : UInt8) : Bool := length &&& 0xc0 == 0xc0

/-- The bytes of a name. -/
inductive Name : Bytes → Prop
  | root : Name [0]
  | pointer {high low : UInt8} (mark : isPointer high) : Name [high, low]
  | label {length : UInt8} {text rest : Bytes} (nonempty : length ≠ 0) (plain : ¬ isPointer length)
      (sized : text.length = length.toNat) (more : Name rest) : Name (length :: (text ++ rest))

/-- The bytes of a question: a name, a type and a class. -/
inductive Question : Bytes → Prop
  | mk {name fixed : Bytes} (named : Name name) (sized : fixed.length = 4) :
    Question (name ++ fixed)

structure Resource where
  type : Nat
  cls : Nat
  data : Bytes
deriving DecidableEq, Repr

/-- The bytes of a resource record: a name, type, class, time to live, and data behind their
length. -/
inductive Record : Bytes → Resource → Prop
  | mk {name data : Bytes} {t₁ t₀ c₁ c₀ a b c d l₁ l₀ : UInt8} (named : Name name)
      (sized : data.length = word l₁ l₀) :
      Record (name ++ t₁ :: t₀ :: c₁ :: c₀ :: a :: b :: c :: d :: l₁ :: l₀ :: data)
        ⟨word t₁ t₀, word c₁ c₀, data⟩

/-- So many questions, one after the other. -/
inductive Questions : Nat → Bytes → Prop
  | none : Questions 0 []
  | more {count : Nat} {first rest : Bytes} (question : Question first)
      (others : Questions count rest) : Questions (count + 1) (first ++ rest)

/-- Resource records, one after the other. -/
inductive Records : List Resource → Bytes → Prop
  | none : Records [] []
  | more {resource : Resource} {resources : List Resource} {first rest : Bytes}
      (record : Record first resource) (others : Records resources rest) :
      Records (resource :: resources) (first ++ rest)

/-- The number at a place of a message. -/
def wordAt (message : Bytes) (offset : Nat) : Nat :=
  word (message.getD offset 0) (message.getD (offset + 1) 0)

/-- The resource records of a message's answer section. -/
def Answers (message : Bytes) (answers : List Resource) : Prop :=
  ∃ header questions records rest, message = header ++ (questions ++ (records ++ rest)) ∧
    header.length = 12 ∧ Questions (wordAt message 4) questions ∧ Records answers records ∧
    answers.length = wordAt message 6

/-- The message was cut off. -/
def truncated (message : Bytes) : Bool := (message.getD 2 0) &&& 0x02 == 0x02

end Foundation.Dns
