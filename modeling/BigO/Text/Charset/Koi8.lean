import BigO.Text.Charset.ByteTable

/-! The Cyrillic charsets that keep the letters in the order of their Latin neighbours, and the
Roman charset of printers. -/

namespace BigO.Text.ByteTable

/-- KOI8-R: letters of Russian. -/
def koi8R : ByteTable := .ofRows 0x80 [
  "─│┌┐└┘├┤┬┴┼▀▄█▌▐", "░▒▓⌠■∙√≈≤≥\u00a0⌡°²·÷", "═║╒ё╓╔╕╖╗╘╙╚╛╜╝╞", "╟╠╡Ё╢╣╤╥╦╧╨╩╪╫╬©",
  "юабцдефгхийклмно", "пярстужвьызшэщчъ", "ЮАБЦДЕФГХИЙКЛМНО", "ПЯРСТУЖВЬЫЗШЭЩЧЪ"]

/-- KOI8-T: letters of Tajik. -/
def koi8T : ByteTable := .ofRows 0x80 [
  "қғ‚Ғ„…†‡�‰ҳ‹ҲҷҶ�", "Қ‘’“”•–—�™�›����", "�ӯӮё¤ӣ¦§���«¬\u00ad®�", "°±²Ё�Ӣ¶·�№�»���©",
  "юабцдефгхийклмно", "пярстужвьызшэщчъ", "ЮАБЦДЕФГХИЙКЛМНО", "ПЯРСТУЖВЬЫЗШЭЩЧЪ"]

/-- KOI8-U: letters of Russian and Ukrainian. -/
def koi8U : ByteTable := .ofRows 0x80 [
  "─│┌┐└┘├┤┬┴┼▀▄█▌▐", "░▒▓⌠■∙√≈≤≥\u00a0⌡°²·÷", "═║╒ёє╔ії╗╘╙╚╛ґ╝╞", "╟╠╡ЁЄ╣ІЇ╦╧╨╩╪Ґ╬©",
  "юабцдефгхийклмно", "пярстужвьызшэщчъ", "ЮАБЦДЕФГХИЙКЛМНО", "ПЯРСТУЖВЬЫЗШЭЩЧЪ"]

/-- Roman-8: Latin letters of Western Europe. -/
def roman8 : ByteTable := .ofRows 0xA0 [
  "\u00a0ÀÂÈÊËÎÏ´ˋˆ¨˜ÙÛ₤", "¯Ýý°ÇçÑñ¡¿¤£¥§ƒ¢", "âêôûáéóúàèòùäëöü", "ÅîØÆåíøæÄìÖÜÉïßÔ",
  "ÁÃãÐðÍÌÓÒÕõŠšÚŸÿ", "Þþ·µ¶¾—¼½ªº«■»±�"]

end BigO.Text.ByteTable
