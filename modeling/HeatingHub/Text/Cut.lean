/-!
# Cutting texts to a width

A text's width is the number of its UTF-8 bytes. Cutting to a width never splits a character:
`keepFirst` and `keepLast` keep what fits of the start and of the end, and `pieces` cuts a whole
text into parts that fit, one after the other.
-/

namespace HeatingHub.Text

/-- The number of UTF-8 bytes of a text. -/
def width : List Char → Nat
  | [] => 0
  | c :: rest => c.utf8Size + width rest

/-- The longest start of a text that is at most `limit` bytes wide. -/
def keepFirst (limit : Nat) : List Char → List Char
  | [] => []
  | c :: rest => if c.utf8Size ≤ limit then c :: keepFirst (limit - c.utf8Size) rest else []

/-- The longest end of a text that is at most `limit` bytes wide. -/
def keepLast (limit : Nat) (text : List Char) : List Char :=
  (keepFirst limit text.reverse).reverse

/-- The text cut into consecutive parts, each as long as `limit` bytes allow. A character wider
than `limit` makes a part alone. -/
def pieces (limit : Nat) : List Char → List (List Char)
  | [] => []
  | c :: rest =>
    let others := keepFirst (limit - c.utf8Size) rest
    (c :: others) :: pieces limit (rest.drop others.length)
termination_by text => text.length
decreasing_by simp only [List.length_drop, List.length_cons]; omega

end HeatingHub.Text
