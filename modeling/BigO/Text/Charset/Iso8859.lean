import BigO.Text.Charset.ByteTable

/-! The parts of ISO 8859 but the first, each with ASCII, the controls from 128 to 159 and letters
of its own from 160 on; with them the Thai standard that part 11 goes back to. -/

namespace BigO.Text.ByteTable

/-- ISO 8859-2: Latin letters of Central Europe. -/
def iso8859Part2 : ByteTable := .ofRows 0xA0 [
  "\u00a0Ą˘Ł¤ĽŚ§¨ŠŞŤŹ\u00adŽŻ", "°ą˛ł´ľśˇ¸šşťź˝žż", "ŔÁÂĂÄĹĆÇČÉĘËĚÍÎĎ", "ĐŃŇÓÔŐÖ×ŘŮÚŰÜÝŢß",
  "ŕáâăäĺćçčéęëěíîď", "đńňóôőö÷řůúűüýţ˙"]

/-- ISO 8859-3: Latin letters of the south of Europe. -/
def iso8859Part3 : ByteTable := .ofRows 0xA0 [
  "\u00a0Ħ˘£¤�Ĥ§¨İŞĞĴ\u00ad�Ż", "°ħ²³´µĥ·¸ışğĵ½�ż", "ÀÁÂ�ÄĊĈÇÈÉÊËÌÍÎÏ", "�ÑÒÓÔĠÖ×ĜÙÚÛÜŬŜß",
  "àáâ�äċĉçèéêëìíîï", "�ñòóôġö÷ĝùúûüŭŝ˙"]

/-- ISO 8859-4: Latin letters of the north of Europe. -/
def iso8859Part4 : ByteTable := .ofRows 0xA0 [
  "\u00a0ĄĸŖ¤ĨĻ§¨ŠĒĢŦ\u00adŽ¯", "°ą˛ŗ´ĩļˇ¸šēģŧŊžŋ", "ĀÁÂÃÄÅÆĮČÉĘËĖÍÎĪ", "ĐŅŌĶÔÕÖ×ØŲÚÛÜŨŪß",
  "āáâãäåæįčéęëėíîī", "đņōķôõö÷øųúûüũū˙"]

/-- ISO 8859-5: Cyrillic letters. -/
def iso8859Part5 : ByteTable := .ofRows 0xA0 [
  "\u00a0ЁЂЃЄЅІЇЈЉЊЋЌ\u00adЎЏ", "АБВГДЕЖЗИЙКЛМНОП", "РСТУФХЦЧШЩЪЫЬЭЮЯ", "абвгдежзийклмноп",
  "рстуфхцчшщъыьэюя", "№ёђѓєѕіїјљњћќ§ўџ"]

/-- ISO 8859-6: Arabic letters. -/
def iso8859Part6 : ByteTable := .ofRows 0xA0 [
  "\u00a0���¤�������،\u00ad��", "�����������\u061b���\u061f",
  "�\u0621\u0622\u0623\u0624\u0625\u0626\u0627\u0628\u0629\u062a\u062b\u062c\u062d\u062e\u062f",
  "\u0630\u0631\u0632\u0633\u0634\u0635\u0636\u0637\u0638\u0639\u063a�����",
  "\u0640\u0641\u0642\u0643\u0644\u0645\u0646\u0647\u0648\u0649\u064a\u064b\u064c\u064d\u064e\u064f",
  "\u0650\u0651\u0652�������������"]

/-- ISO 8859-7: Greek letters. -/
def iso8859Part7 : ByteTable := .ofRows 0xA0 [
  "\u00a0‘’£€₯¦§¨©ͺ«¬\u00ad�―", "°±²³΄΅Ά·ΈΉΊ»Ό½ΎΏ", "ΐΑΒΓΔΕΖΗΘΙΚΛΜΝΞΟ", "ΠΡ�ΣΤΥΦΧΨΩΪΫάέήί",
  "ΰαβγδεζηθικλμνξο", "πρςστυφχψωϊϋόύώ�"]

/-- ISO 8859-8: Hebrew letters. -/
def iso8859Part8 : ByteTable := .ofRows 0xA0 [
  "\u00a0�¢£¤¥¦§¨©×«¬\u00ad®¯", "°±²³´µ¶·¸¹÷»¼½¾�", "����������������", "���������������‗",
  "\u05d0\u05d1\u05d2\u05d3\u05d4\u05d5\u05d6\u05d7\u05d8\u05d9\u05da\u05db\u05dc\u05dd\u05de\u05df",
  "\u05e0\u05e1\u05e2\u05e3\u05e4\u05e5\u05e6\u05e7\u05e8\u05e9\u05ea��\u200e\u200f�"]

/-- ISO 8859-9: Latin letters with those of Turkish. -/
def iso8859Part9 : ByteTable := .ofRows 0xA0 [
  "\u00a0¡¢£¤¥¦§¨©ª«¬\u00ad®¯", "°±²³´µ¶·¸¹º»¼½¾¿", "ÀÁÂÃÄÅÆÇÈÉÊËÌÍÎÏ", "ĞÑÒÓÔÕÖ×ØÙÚÛÜİŞß",
  "àáâãäåæçèéêëìíîï", "ğñòóôõö÷øùúûüışÿ"]

/-- ISO 8859-10: Latin letters of the Nordic languages. -/
def iso8859Part10 : ByteTable := .ofRows 0xA0 [
  "\u00a0ĄĒĢĪĨĶ§ĻĐŠŦŽ\u00adŪŊ", "°ąēģīĩķ·ļđšŧž―ūŋ", "ĀÁÂÃÄÅÆĮČÉĘËĖÍÎÏ", "ÐŅŌÓÔÕÖŨØŲÚÛÜÝÞß",
  "āáâãäåæįčéęëėíîï", "ðņōóôõöũøųúûüýþĸ"]

/-- ISO 8859-11: Thai letters. -/
def iso8859Part11 : ByteTable := .ofRows 0xA0 [
  "\u00a0กขฃคฅฆงจฉชซฌญฎฏ", "ฐฑฒณดตถทธนบปผฝพฟ", "ภมยรฤลฦวศษสหฬอฮฯ",
  "ะ\u0e31าำ\u0e34\u0e35\u0e36\u0e37\u0e38\u0e39\u0e3a����฿",
  "เแโใไๅๆ\u0e47\u0e48\u0e49\u0e4a\u0e4b\u0e4c\u0e4d\u0e4e๏", "๐๑๒๓๔๕๖๗๘๙๚๛����"]

/-- ISO 8859-13: Latin letters of the Baltic languages. -/
def iso8859Part13 : ByteTable := .ofRows 0xA0 [
  "\u00a0”¢£¤„¦§Ø©Ŗ«¬\u00ad®Æ", "°±²³“µ¶·ø¹ŗ»¼½¾æ", "ĄĮĀĆÄÅĘĒČÉŹĖĢĶĪĻ", "ŠŃŅÓŌÕÖ×ŲŁŚŪÜŻŽß",
  "ąįāćäåęēčéźėģķīļ", "šńņóōõö÷ųłśūüżž’"]

/-- ISO 8859-14: Latin letters of the Celtic languages. -/
def iso8859Part14 : ByteTable := .ofRows 0xA0 [
  "\u00a0Ḃḃ£ĊċḊ§Ẁ©ẂḋỲ\u00ad®Ÿ", "ḞḟĠġṀṁ¶ṖẁṗẃṠỳẄẅṡ", "ÀÁÂÃÄÅÆÇÈÉÊËÌÍÎÏ", "ŴÑÒÓÔÕÖṪØÙÚÛÜÝŶß",
  "àáâãäåæçèéêëìíîï", "ŵñòóôõöṫøùúûüýŷÿ"]

/-- ISO 8859-15: Latin letters of Western Europe with the euro sign. -/
def iso8859Part15 : ByteTable := .ofRows 0xA0 [
  "\u00a0¡¢£€¥Š§š©ª«¬\u00ad®¯", "°±²³Žµ¶·ž¹º»ŒœŸ¿", "ÀÁÂÃÄÅÆÇÈÉÊËÌÍÎÏ", "ÐÑÒÓÔÕÖ×ØÙÚÛÜÝÞß",
  "àáâãäåæçèéêëìíîï", "ðñòóôõö÷øùúûüýþÿ"]

/-- ISO 8859-16: Latin letters of the south-east of Europe. -/
def iso8859Part16 : ByteTable := .ofRows 0xA0 [
  "\u00a0ĄąŁ€„Š§š©Ș«Ź\u00adźŻ", "°±ČłŽ”¶·žčș»ŒœŸż", "ÀÁÂĂÄĆÆÇÈÉÊËÌÍÎÏ", "ĐŃÒÓÔŐÖŚŰÙÚÛÜĘȚß",
  "àáâăäćæçèéêëìíîï", "đńòóôőöśűùúûüęțÿ"]

/-- TIS-620: Thai letters. -/
def tis620 : ByteTable := .ofRows 0xA0 [
  "�กขฃคฅฆงจฉชซฌญฎฏ", "ฐฑฒณดตถทธนบปผฝพฟ", "ภมยรฤลฦวศษสหฬอฮฯ",
  "ะ\u0e31าำ\u0e34\u0e35\u0e36\u0e37\u0e38\u0e39\u0e3a����฿",
  "เแโใไๅๆ\u0e47\u0e48\u0e49\u0e4a\u0e4b\u0e4c\u0e4d\u0e4e๏", "๐๑๒๓๔๕๖๗๘๙๚๛����"]

end BigO.Text.ByteTable
