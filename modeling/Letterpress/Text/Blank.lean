/-! Blank characters, and what is done with them: a text is trimmed, cut into words, or found to hold nothing else.
Two classes are in use. Authors' text goes by the Unicode property `White_Space`; the grammar of a document knows the
ASCII blanks only. -/
namespace Letterpress.Text

/-- The characters with the Unicode property `White_Space`. -/
def isBlank (c : Char) : Bool :=
  let n := c.toNat
  n == 0x20 || (0x09 ≤ n && n ≤ 0x0d) || n == 0x85 || n == 0xa0 || n == 0x1680 ||
    (0x2000 ≤ n && n ≤ 0x200a) || n == 0x2028 || n == 0x2029 || n == 0x202f || n == 0x205f || n == 0x3000

/-- Space, tab, line feed, form feed and carriage return. -/
def isAsciiBlank (c : Char) : Bool :=
  c == ' ' || c == '\t' || c == '\n' || c == '\x0c' || c == '\r'

def dropBlanks (s : List Char) : List Char := s.dropWhile isBlank

def dropTrailingBlanks (s : List Char) : List Char := (s.reverse.dropWhile isBlank).reverse

def trimChars (s : List Char) : List Char := dropTrailingBlanks (dropBlanks s)

def trim (s : String) : String := String.ofList (trimChars s.toList)

def isBlankText (s : String) : Bool := s.toList.all isBlank

/-- The stretches between the separators, empty ones included; there is always one more of them than separators. -/
def fields (separates : Char → Bool) : List Char → List (List Char)
  | [] => [[]]
  | c :: rest =>
    if separates c then [] :: fields separates rest
    else match fields separates rest with
      | [] => [[c]]
      | first :: others => (c :: first) :: others

/-- The maximal stretches without a blank, in order. -/
def words (s : String) : List String :=
  ((fields isBlank s.toList).filter (!·.isEmpty)).map String.ofList

theorem fields_ne_nil (separates : Char → Bool) (s : List Char) : fields separates s ≠ [] := by
  cases s with
  | nil => simp [fields]
  | cons c rest =>
    simp only [fields]
    split
    · simp
    · split <;> simp

/-- A separator between two texts cuts exactly between the fields of the one and those of the other. -/
theorem fields_append {separates : Char → Bool} {c : Char} (apart : separates c = true) (s t : List Char) :
    fields separates (s ++ c :: t) = fields separates s ++ fields separates t := by
  induction s with
  | nil => simp only [List.nil_append,fields,apart,if_true,List.singleton_append]
  | cons d s ih =>
    simp only [List.cons_append,fields,ih]
    by_cases cut : separates d = true
    · simp only [cut,if_true,List.cons_append]
    · simp only [cut,Bool.false_eq_true,if_false]
      cases whole : fields separates s with
      | nil => exact absurd whole (fields_ne_nil separates s)
      | cons first others => rfl

theorem not_separates_of_mem_fields {separates : Char → Bool} {s field : List Char} (member : field ∈ fields separates s) :
    ∀ c ∈ field, separates c = false := by
  induction s generalizing field with
  | nil =>
    obtain rfl := List.mem_singleton.mp member
    exact fun _ absurdly => absurd absurdly List.not_mem_nil
  | cons d s ih =>
    rw [fields] at member
    by_cases cut : separates d = true
    · rw [if_pos cut] at member
      rcases List.mem_cons.mp member with rfl | later
      · exact fun _ absurdly => absurd absurdly List.not_mem_nil
      · exact ih later
    · rw [if_neg cut] at member
      cases whole : fields separates s with
      | nil => exact absurd whole (fields_ne_nil separates s)
      | cons first others =>
        rw [whole] at ih
        rw [whole] at member
        rcases List.mem_cons.mp member with rfl | later
        · exact List.forall_mem_cons.mpr ⟨Bool.not_eq_true _ ▸ cut,ih List.mem_cons_self⟩
        · exact ih (List.mem_cons_of_mem _ later)

end Letterpress.Text
