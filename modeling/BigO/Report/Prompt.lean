import BigO.Text.Basic

/-! What the language model is asked. The tag and the source text go in as they are. -/

namespace BigO.Prompt

/-- The instructions: what to do and the form of the answer. -/
def instructions (language : Text) : Text :=
  text "You are an expert algorithm analyst. Analyze the " ++ language ++
    text " code for time and space complexity.\n" ++
    text "\n" ++
    text "## Rules:\n" ++
    text "1. Analyze the ENTIRE code as a whole\n" ++
    text "2. Use standard Big-O notation\n" ++
    text "3. Consider loops, recursion, and data structures\n" ++
    text "4. Keep suggestions short and actionable\n" ++
    text "\n" ++
    text "Return ONLY this JSON structure (no other text):\n" ++
    text "\x7b\n" ++
    text "    \"language\": \"" ++
    language ++
    text "\",\n" ++
    text "    \"time\": \"O(...)\",\n" ++
    text "    \"space\": \"O(...)\",\n" ++
    text "    \"explanation\": \"Breakdown of the complexity\",\n" ++
    text "    \"suggestions\": [\"Tip 1\", \"Tip 2\"]\n" ++
    text "\x7d\n"

/-- The question about a source text. -/
def question (code : Text) : Text :=
  text "Analyze time and space complexity. Return strict JSON.\n\nCODE:\n```\n" ++ code ++
    text "\n```\n"

end BigO.Prompt
