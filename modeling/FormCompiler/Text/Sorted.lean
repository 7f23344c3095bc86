namespace FormCompiler.Text

def sorted (xs : List String) : List String := xs.mergeSort (fun a b => decide (a ≤ b))

variable {α : Type}

def distinct [BEq α] (print : α → String) (xs : List α) : List α :=
  xs.eraseDups.mergeSort (fun a b => decide (print a ≤ print b))

def braced (print : α → String) (xs : List α) : String := "\x7b" ++ ", ".intercalate (xs.map print) ++ "\x7d"

end FormCompiler.Text
