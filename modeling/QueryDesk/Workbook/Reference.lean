/-!
# Cell references

Columns are numbered with letters: A to Z, then AA and so on, without a zero. A reference is the letters
of the column and the number of the row, both counted from one in the text.
-/

namespace QueryDesk.Workbook

/-- The letter for a digit below 26. -/
def letter (d : Nat) : Char := Char.ofNat ('A'.toNat + d)

/-- The letters of a number, of which 1 is A and 27 is AA; zero has none. -/
def letters (n : Nat) : List Char :=
  if n = 0 then [] else letters ((n - 1) / 26) ++ [letter ((n - 1) % 26)]
termination_by n
decreasing_by omega

/-- The name of the column at an index from zero. -/
def columnLetter (index : Nat) : String := String.ofList (letters (index + 1))

/-- The reference of the cell in the column at an index from zero and in a numbered row. -/
def cellReference (column row : Nat) : String := columnLetter column ++ toString row

/-- The range from the first cell to the last column and row, where there is a column. -/
def tableRange? (columns dataRows : Nat) : Option String :=
  if columns = 0 then none else some ("A1:" ++ cellReference (columns - 1) (dataRows + 1))

/-- The same range with fixed column and row. -/
def fixedRange? (columns dataRows : Nat) : Option String :=
  if columns = 0 then none
  else some ("$A$1:$" ++ columnLetter (columns - 1) ++ "$" ++ toString (dataRows + 1))

end QueryDesk.Workbook
