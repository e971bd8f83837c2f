import BigO.Analysis
import BigO.Validation
import BigO.Json.Writer

/-! The reference check: six well-known algorithms, the labels that textbooks give them, and whether
the estimates agree. Shapes of graphs and grids are expected to disagree. -/

namespace BigO.SelfCheck.Reference

/-- An algorithm and its textbook labels. -/
structure Case where
  name : Text
  language : Text
  code : Text
  time : Text
  space : Text

/-- A source text from its lines. -/
def sourceOf (lines : List String) : Text := Text.join (text "\n") (lines.map text)

/-- The six algorithms. -/
def cases : List Case := [
  { name := text "Array: Two Sum (Hash Map)"
    language := text "javascript"
    code := sourceOf [
      "function twoSum(nums, target) \x7b",
      "    let map = new Map();",
      "    for (let i = 0; i < nums.length; i++) \x7b",
      "        let diff = target - nums[i];",
      "        if (map.has(diff)) \x7b",
      "            return [map.get(diff), i];",
      "        \x7d",
      "        map.set(nums[i], i);",
      "    \x7d",
      "    return [];",
      "\x7d"]
    time := text "O(N)"
    space := text "O(N)" },
  { name := text "Array: Binary Search"
    language := text "javascript"
    code := sourceOf [
      "function binarySearch(arr, target) \x7b",
      "    let l = 0, r = arr.length - 1;",
      "    while (l <= r) \x7b",
      "        let m = Math.floor((l + r) / 2);",
      "        if (arr[m] === target) return m;",
      "        if (arr[m] < target) l = m + 1;",
      "        else r = m - 1;",
      "    \x7d",
      "    return -1;",
      "\x7d"]
    time := text "O(log N)"
    space := text "O(1)" },
  { name := text "Recursion: Factorial"
    language := text "python"
    code := sourceOf [
      "def fact(n):",
      "    if n == 0:",
      "        return 1",
      "    return n * fact(n-1)"]
    time := text "O(N)"
    space := text "O(N)" },
  { name := text "Sort: MergeSort"
    language := text "javascript"
    code := sourceOf [
      "function mergeSort(arr) \x7b",
      "    if (arr.length <= 1) return arr;",
      "    let mid = Math.floor(arr.length / 2);",
      "    let left = mergeSort(arr.slice(0, mid));",
      "    let right = mergeSort(arr.slice(mid));",
      "    return merge(left, right);",
      "\x7d",
      "function merge(left, right) \x7b",
      "    let res = [], i = 0, j = 0;",
      "    while (i < left.length && j < right.length) \x7b",
      "        if (left[i] < right[j]) res.push(left[i++]);",
      "        else res.push(right[j++]);",
      "    \x7d",
      "    return res.concat(left.slice(i)).concat(right.slice(j));",
      "\x7d"]
    time := text "O(N log N)"
    space := text "O(N)" },
  { name := text "Sort: Bubble Sort"
    language := text "python"
    code := sourceOf [
      "def bubble_sort(arr):",
      "    for i in range(len(arr)):",
      "        for j in range(len(arr) - i - 1):",
      "            if arr[j] > arr[j + 1]:",
      "                arr[j], arr[j + 1] = arr[j + 1], arr[j]"]
    time := text "O(N²)"
    space := text "O(1)" },
  { name := text "Graph: Number of Islands (DFS)"
    language := text "javascript"
    code := sourceOf [
      "function numIslands(grid) \x7b",
      "    let rows = grid.length, cols = grid[0].length;",
      "    function dfs(r, c) \x7b",
      "        if (r < 0 || c < 0 || r >= rows || c >= cols || grid[r][c] === '0') return;",
      "        grid[r][c] = '0';",
      "        dfs(r+1, c);",
      "        dfs(r-1, c);",
      "        dfs(r, c+1);",
      "        dfs(r, c-1);",
      "    \x7d",
      "    let count = 0;",
      "    for (let r = 0; r < rows; r++) \x7b",
      "        for (let c = 0; c < cols; c++) \x7b",
      "            if (grid[r][c] === '1') \x7b",
      "                count++;",
      "                dfs(r, c);",
      "            \x7d",
      "        \x7d",
      "    \x7d",
      "    return count;",
      "\x7d"]
    time := text "O(R*C)"
    space := text "O(R*C)" }]

/-- The estimate for the algorithm. -/
def Case.estimate (c : Case) : Estimate := analyze c.code c.language

/-- The estimate has the textbook labels. -/
def Case.agrees (c : Case) : Bool := c.estimate.time = c.time && c.estimate.space = c.space

/-- A line of this many copies of a mark. -/
def rule (length : Nat) (mark : Char) : Text := List.replicate length (CodePoint.ofChar mark)

/-- What is printed about an algorithm. -/
def Case.lines (c : Case) : List Text :=
  [[], text (if c.agrees then "✓ " else "✗ ") ++ c.name] ++
    (if c.agrees then []
      else [text "   Reference: Time " ++ c.time ++ text ", Space " ++ c.space]) ++
    [text "   " ++ c.estimate.toJson.write .wide]

/-- What is printed about a list of algorithms. -/
def lines (cases : List Case) : List Text :=
  [rule 60 '=', text "Complexity Analyzer - Heuristic Check", rule 60 '='] ++
    cases.flatMap Case.lines ++
    [rule 40 '-', Text.ofNat (cases.countP Case.agrees) ++ text "/" ++ Text.ofNat cases.length ++
      text " match the reference labels"]

/-- The printed check. -/
def output : Text := (lines cases).flatMap (· ++ text "\n")

end BigO.SelfCheck.Reference
