import BigO.SelfCheck.Reference

/-! The command: it prints the reference check. -/

/-- Prints the reference check. -/
def main : IO Unit := IO.print BigO.SelfCheck.Reference.output.toString
